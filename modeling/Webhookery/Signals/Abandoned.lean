import Webhookery.Signals.System

/-!
# Deliveries of crashed workers

A delivery that is in progress while no worker holds it stays so: claims take scheduled deliveries only, and
an attempt is recorded by a worker that holds the delivery. Only a retry by an operator makes it claimable
again, and a retry always does.
-/

namespace Webhookery.Signals

open Go Relational Store Audit

/-! ## One queue and its workers -/

section Desk

variable {κ : Type} {F : Family κ}

/-- A queue, and what workers hold of it. -/
structure Desk (F : Family κ) where
  queue : Queue F
  work : List Held

/-- What a step of the system can do to a queue and its workers; the label is that of a retry. -/
inductive Desk.Step : Desk F → Option (String × String) → Desk F → Prop
  | idle (desk : Desk F) : Step desk none desk
  | insert {desk : Desk F} {q' : Queue F} (d : SignalDelivery κ)
    (rows : q'.deliveries.rows = desk.queue.deliveries.rows ++ [d]) : Step desk none ⟨q', desk.work⟩
  | claim {desk : Desk F} {q' : Queue F} (workerID : String) (items : List SignalDeliveryItem)
    (updated : desk.queue.Updated (fun d ↦ d.state = .scheduled) q')
    (taken : ∀ item ∈ items, ∃ d ∈ desk.queue.deliveries, d.state = .scheduled ∧ item.Of d) :
    Step desk none ⟨q', desk.work ++ items.map (Held.mk workerID)⟩
  | record {desk : Desk F} {q' : Queue F} (i : Nat) (held : Held) (holds : desk.work[i]? = some held)
    (updated : desk.queue.Updated (fun d ↦ d.tenantID = held.item.tenantID ∧ d.id = held.item.id) q') :
    Step desk none ⟨q', desk.work.eraseIdx i⟩
  | retry {desk : Desk F} {q' : Queue F} (tenantID id : String)
    (updated : desk.queue.Updated (fun d ↦ d.tenantID = tenantID ∧ d.id = id) q') :
    Step desk (some (tenantID, id)) ⟨q', desk.work⟩
  | crash (desk : Desk F) (keeps : Held → Bool) : Step desk none ⟨desk.queue, desk.work.filter keeps⟩

/-- The delivery is in progress and nobody works on it. -/
structure Desk.Abandoned (desk : Desk F) (tenantID id : String) : Prop where
  inProgress : ∃ d ∈ desk.queue.deliveries, d.tenantID = tenantID ∧ d.id = id ∧ d.state = .inProgress
  unheld : ∀ held ∈ desk.work, held.item.id ≠ id

variable {desk desk' : Desk F} {tenantID id : String}

/-- The delivery is not among the scheduled ones. -/
theorem Desk.Abandoned.not_scheduled (h : desk.Abandoned tenantID id)
    (hd : d ∈ desk.queue.deliveries) (hstate : d.state = .scheduled) : d.id ≠ id := by
  intro hid
  obtain ⟨d₀, hd₀, -, hid₀, hstate₀⟩ := h.inProgress
  obtain rfl : d = d₀ := Table.eq_of_key_eq hd hd₀ (hid.trans hid₀.symm)
  rw [hstate] at hstate₀
  cases hstate₀

/-- A step other than the delivery's retry leaves it abandoned. -/
theorem Desk.Abandoned.step (h : desk.Abandoned tenantID id)
    (hstep : Desk.Step desk label desk') (hlabel : label ≠ some (tenantID, id)) : desk'.Abandoned tenantID id := by
  obtain ⟨d, hd, htenant, hid, hstate⟩ := h.inProgress
  cases hstep with
  | idle => exact h
  | insert _ rows =>
    refine ⟨⟨d, ?_, htenant, hid, hstate⟩, h.unheld⟩
    exact (Table.mem_append rows).mpr (.inl hd)
  | claim _ _ updated taken =>
    refine ⟨⟨d, updated.mem_of_not_touched hd ?_, htenant, hid, hstate⟩, ?_⟩
    · rw [hstate]
      exact nofun
    · intro held hheld
      rcases List.mem_append.mp hheld with hheld | hheld
      · exact h.unheld held hheld
      · obtain ⟨item, hitem, rfl⟩ := List.mem_map.mp hheld
        obtain ⟨_, hd', hscheduled, hof⟩ := taken item hitem
        have hid' := h.not_scheduled hd' hscheduled
        rw [← hof.id] at hid'
        exact hid'
  | record i held holds updated =>
    refine ⟨⟨d, updated.mem_of_not_touched hd ?_, htenant, hid, hstate⟩, ?_⟩
    · rintro ⟨-, hsame⟩
      exact h.unheld held (List.mem_of_getElem? holds) (hsame.symm.trans hid)
    · exact fun held hheld ↦ h.unheld held (List.mem_of_mem_eraseIdx hheld)
  | retry _ _ updated =>
    refine ⟨⟨d, updated.mem_of_not_touched hd ?_, htenant, hid, hstate⟩, h.unheld⟩
    rintro ⟨htenant', hid'⟩
    apply hlabel
    rw [← htenant', ← hid', htenant, hid]
  | crash => exact ⟨h.inProgress, fun held hheld ↦ h.unheld held (List.mem_of_mem_filter hheld)⟩

theorem Desk.Step.of_insert [DecidableEq κ] (h : desk.queue.insert env tenantID id key body = .ok q) :
    Desk.Step desk none ⟨q, desk.work⟩ := by
  rcases Queue.insert_eq_ok h with ⟨rfl, -⟩ | ⟨d, hrows, -⟩
  · exact .idle _
  · exact .insert d hrows

variable (destination : String → String → Option Destination)
  (decryptSecret : String → String → Bytes → Option Bytes)

/-- There is a time from which on any worker can claim the delivery. -/
def Queue.Claimable (q : Queue F) (id : String) : Prop :=
  ∃ time, ∀ now, time ≤ now → ∀ workerID, ∃ limit items q',
    q.claim destination decryptSecret workerID limit now = .ok (items, q') ∧ ∃ item ∈ items, item.id = id

/-- The receiver of a delivery is active, and the secrets of receivers can be decrypted. -/
structure Queue.Served (q : Queue F) (tenantID id : String) : Prop where
  active : ∀ d ∈ q.deliveries, d.tenantID = tenantID → d.id = id → (destination d.tenantID d.receiverID).isSome = true
  decrypts : ∀ d ∈ q.deliveries, ∀ receiver, destination d.tenantID d.receiverID = some receiver →
    (decryptSecret d.tenantID F.secretPurpose receiver.encryptedSecret).isSome = true

variable {destination decryptSecret}

theorem Desk.Abandoned.not_claimable (h : desk.Abandoned tenantID id) :
    ¬desk.queue.Claimable destination decryptSecret id := by
  rintro ⟨time, hclaim⟩
  obtain ⟨_, _, _, hok, item, hitem, hid⟩ := hclaim time le_rfl ""
  obtain ⟨_, hd, hstate, hof⟩ := (Queue.claim_eq_ok hok).2 item hitem
  exact h.not_scheduled hd hstate (hof.id.symm.trans hid)

/-- A scheduled delivery of an active receiver can be claimed from its time on, by a claim that is large
enough. -/
theorem Queue.claimable_of_scheduled {q : Queue F} {d : SignalDelivery κ}
    (hserved : q.Served destination decryptSecret d.tenantID d.id) (hd : d ∈ q.deliveries)
    (hstate : d.state = .scheduled) : q.Claimable destination decryptSecret d.id := by
  refine ⟨d.nextAttemptAt, fun now hnow workerID ↦ ⟨q.deliveries.rows.length + 1, ?_⟩⟩
  have hpopulates : ∀ d' ∈ q.claimed destination (q.deliveries.rows.length + 1) now,
      ∃ item, populateItem destination decryptSecret F.secretPurpose d' = .ok item := by
    intro d' hd'
    obtain ⟨hmem, hdue⟩ := mem_claimed hd'
    simp only [SignalDelivery.due, Bool.and_eq_true] at hdue
    obtain ⟨receiver, hreceiver⟩ := Option.isSome_iff_exists.mp hdue.2
    obtain ⟨_, hsecret⟩ := Option.isSome_iff_exists.mp (hserved.decrypts d' hmem receiver hreceiver)
    exact ⟨_, by rw [populateItem, hreceiver]; dsimp only; rw [hsecret]⟩
  obtain ⟨items, hitems⟩ := exists_mapM_iff.mpr hpopulates
  have hclaimed : d ∈ q.claimed destination (q.deliveries.rows.length + 1) now := by
    have hdue : d.due destination now = true := by
      simp only [SignalDelivery.due, Bool.and_eq_true, beq_iff_eq, decide_eq_true_eq]
      exact ⟨⟨hstate, hnow⟩, hserved.active d hd rfl rfl⟩
    rw [Queue.claimed, List.take_of_length_le]
    · exact (List.mem_insertionSort _).mpr (List.mem_filter.mpr ⟨hd, hdue⟩)
    · have hle := List.length_filter_le (SignalDelivery.due destination now) q.deliveries.rows
      rw [List.length_insertionSort, if_neg (by omega)]
      omega
  obtain ⟨item, hitem, hof⟩ := exists_mem_of_mapM_eq_ok hitems hclaimed
  exact ⟨items, _, bind_eq_ok.mpr ⟨items, hitems, rfl⟩, item, hitem, (populateItem_eq_ok hof).id⟩

end Desk

/-! ## The system -/

inductive SignalKind where
  | notification
  | siem
  deriving DecidableEq, Repr

variable {decryptSecret : String → String → Bytes → Option Bytes} {crypto : Crypto}

/-- The delivery that a step retries. -/
def SignalStep.retried : SignalKind → SignalStep → Option (String × String)
  | .notification, .retryNotification _ tenantID id => some (tenantID, id)
  | .siem, .retrySIEM _ tenantID id => some (tenantID, id)
  | _, _ => none

/-- What the deliveries of a kind are unique for. -/
abbrev SignalKind.Key : SignalKind → Type
  | .notification => Transition
  | .siem => SequenceRange

def SignalKind.family : (kind : SignalKind) → Family kind.Key
  | .notification => Signals.notifications
  | .siem => Signals.siem

namespace SignalSystem

def desk (s : SignalSystem) : (kind : SignalKind) → Desk kind.family
  | .notification => ⟨s.tables.notifications, s.notificationWork⟩
  | .siem => ⟨s.tables.siem, s.siemWork⟩

def receiver (s : SignalSystem) : SignalKind → String → String → Option Destination
  | .notification => s.tables.channel
  | .siem => s.tables.sink

/-- The delivery is in progress, and the worker that claimed it has crashed. -/
def Abandoned (s : SignalSystem) (tenantID id : String) (kind : SignalKind) : Prop :=
  (s.desk kind).Abandoned tenantID id

/-- There is a time from which on a claim by any worker can return the delivery. -/
def Claimable (decryptSecret : String → String → Bytes → Option Bytes) (s : SignalSystem) (id : String)
    (kind : SignalKind) : Prop :=
  (s.desk kind).queue.Claimable (s.receiver kind) decryptSecret id

def Served (decryptSecret : String → String → Bytes → Option Bytes) (s : SignalSystem) (tenantID id : String)
    (kind : SignalKind) : Prop :=
  (s.desk kind).queue.Served (s.receiver kind) decryptSecret tenantID id

variable {s s' : SignalSystem} {step : SignalStep} {tenantID id : String} {kind : SignalKind}

/-- What a step does to the deliveries of a kind. -/
theorem Stepped.desk (h : s.Stepped decryptSecret crypto step s') (kind : SignalKind) : ∃ label,
    Desk.Step (s.desk kind) label (s'.desk kind) ∧ (label = none ∨ label = step.retried kind) := by
  cases kind with
  | notification =>
    cases h with
    | notified inserts => exact ⟨none, .of_insert inserts, .inl rfl⟩
    | claimedNotifications claims =>
      obtain ⟨hupdated, htaken⟩ := Queue.claim_eq_ok claims
      exact ⟨none, .claim _ _ hupdated htaken, .inl rfl⟩
    | recordedNotification holds records =>
      exact ⟨none, .record _ _ holds (Queue.record_eq_ok records), .inl rfl⟩
    | retriedNotification retries => exact ⟨_, .retry _ _ (Queue.retry_eq_ok retries), .inr rfl⟩
    | crashed => exact ⟨none, .crash _ _, .inl rfl⟩
    | nothing | channels | createdSink | updatedSink | tested | readSinks | built | enqueued | stopped
    | claimedSIEM | recordedSIEM | retriedSIEM | audited => exact ⟨none, .idle _, .inl rfl⟩
  | siem =>
    cases h with
    | tested inserts | enqueued _ inserts => exact ⟨none, .of_insert inserts, .inl rfl⟩
    | claimedSIEM claims =>
      obtain ⟨hupdated, htaken⟩ := Queue.claim_eq_ok claims
      exact ⟨none, .claim _ _ hupdated htaken, .inl rfl⟩
    | recordedSIEM holds _ _ _ records =>
      exact ⟨none, .record _ _ holds (Queue.record_eq_ok records), .inl rfl⟩
    | retriedSIEM retries => exact ⟨_, .retry _ _ (Queue.retry_eq_ok retries), .inr rfl⟩
    | crashed => exact ⟨none, .crash _ _, .inl rfl⟩
    | nothing | channels | notified | claimedNotifications | recordedNotification | retriedNotification
    | createdSink | updatedSink | readSinks | built | stopped | audited => exact ⟨none, .idle _, .inl rfl⟩

theorem Abandoned.perform (h : s.Abandoned tenantID id kind)
    (hstep : step.retried kind ≠ some (tenantID, id)) :
    (s.perform decryptSecret crypto step).Abandoned tenantID id kind := by
  obtain ⟨_, hdesk, hlabel⟩ := (s.stepped decryptSecret crypto step).desk kind
  refine Desk.Abandoned.step h hdesk ?_
  rcases hlabel with rfl | rfl
  · exact nofun
  · exact hstep

theorem Abandoned.performAll (h : s.Abandoned tenantID id kind)
    (hsteps : ∀ step ∈ steps, step.retried kind ≠ some (tenantID, id)) :
    (s.performAll decryptSecret crypto steps).Abandoned tenantID id kind := by
  induction steps generalizing s with
  | nil => exact h
  | cons step _ ih =>
    apply ih
    · exact h.perform (hsteps step List.mem_cons_self)
    · exact fun step' hstep' ↦ hsteps step' (List.mem_cons_of_mem _ hstep')

theorem Abandoned.not_claimable (h : s.Abandoned tenantID id kind) : ¬s.Claimable decryptSecret id kind :=
  Desk.Abandoned.not_claimable h

/-- The retry of an abandoned delivery makes it claimable. -/
theorem Abandoned.claimable_of_retried (h : s.Abandoned tenantID id kind)
    (hstep : step.retried kind = some (tenantID, id))
    (hserved : (s.perform decryptSecret crypto step).Served decryptSecret tenantID id kind) :
    (s.perform decryptSecret crypto step).Claimable decryptSecret id kind := by
  cases kind with
  | notification =>
    obtain ⟨d, hd, rfl, rfl, hstate⟩ := h.inProgress
    cases step with
    | retryNotification now =>
      cases hstep
      obtain ⟨q, hq, hmem⟩ := Queue.rescheduled_mem now hd (by rw [hstate]; exact nofun)
      have hretry : retryNotificationDelivery now d.tenantID d.id s.tables =
          .ok { s.tables with notifications := q } := bind_eq_ok.mpr ⟨q, hq, rfl⟩
      simp only [SignalSystem.perform, commit, hretry] at hserved ⊢
      exact Queue.claimable_of_scheduled (d := d.rescheduled now) hserved hmem rfl
    | _ => cases hstep
  | siem =>
    obtain ⟨d, hd, rfl, rfl, hstate⟩ := h.inProgress
    cases step with
    | retrySIEM now =>
      cases hstep
      obtain ⟨q, hq, hmem⟩ := Queue.rescheduled_mem now hd (by rw [hstate]; exact nofun)
      have hretry : retrySIEMDelivery now d.tenantID d.id s.tables = .ok { s.tables with siem := q } :=
        bind_eq_ok.mpr ⟨q, hq, rfl⟩
      simp only [SignalSystem.perform, commit, hretry] at hserved ⊢
      exact Queue.claimable_of_scheduled (d := d.rescheduled now) hserved hmem rfl
    | _ => cases hstep

end SignalSystem

/-- However long a run goes on after a delivery was abandoned, the step that makes it claimable again is its
retry by an operator, and no other. -/
theorem claimable_again_iff_retried {s : SignalSystem} {tenantID id : String} {kind : SignalKind}
    (habandoned : s.Abandoned tenantID id kind) (steps : List SignalStep)
    (hsteps : ∀ step ∈ steps, step.retried kind ≠ some (tenantID, id)) (step : SignalStep)
    (hserved : ((s.performAll decryptSecret crypto steps).perform decryptSecret crypto step).Served decryptSecret
      tenantID id kind) :
    ((s.performAll decryptSecret crypto steps).perform decryptSecret crypto step).Claimable decryptSecret id kind ↔
      step.retried kind = some (tenantID, id) := by
  have hstill : (s.performAll decryptSecret crypto steps).Abandoned tenantID id kind := habandoned.performAll hsteps
  constructor
  · intro hclaimable
    by_contra hstep
    exact (hstill.perform hstep).not_claimable hclaimable
  · intro hstep
    exact hstill.claimable_of_retried hstep hserved

/-! ## A crash -/

/-- Secrets that are kept as they are. -/
def plainSecrets (_ _ : String) (secret : Bytes) : Option Bytes := some secret

def noon (token : String) : Env := ⟨12 * 60 * minute, fun _ _ ↦ token, false, fun _ _ _ ↦ none⟩

/-- A channel and a sink get a delivery each; a worker claims both and crashes. -/
def crashSteps : List SignalStep :=
  [.createChannel (noon "a") "ten_1" "https://alerts.example" [1], .createSink (noon "a") "ten_1" "https://siem.example" [2],
    .notify (noon "a") "ten_1" "nch_a" ⟨"fir_1", "firing"⟩ [3], .testSink (noon "a") "ten_1" "snk_a" [4],
    .claimNotifications "wrk_1" 10 (12 * 60 * minute), .claimSIEM "wrk_1" 10 (12 * 60 * minute), .crash "wrk_1"]

def crashed : SignalSystem := (SignalSystem.initial oldTables).performAll plainSecrets .standard crashSteps

theorem abandoned_notification : crashed.Abandoned "ten_1" "ndel_a" .notification :=
  ⟨⟨_, List.mem_singleton.mpr rfl, by decide +kernel⟩, by decide +kernel⟩

theorem abandoned_siem : crashed.Abandoned "ten_1" "sdel_a" .siem :=
  ⟨⟨_, List.mem_singleton.mpr rfl, by decide +kernel⟩, by decide +kernel⟩

/-- In a run that ends with the crash, both deliveries are stuck for ever, unless an operator retries them. -/
theorem stuck_after_crash :
    Reached plainSecrets .standard oldTables crashed ∧ crashed.Abandoned "ten_1" "ndel_a" .notification ∧
      crashed.Abandoned "ten_1" "sdel_a" .siem ∧
      ∀ steps : List SignalStep, (∀ step ∈ steps, step.retried .notification = none ∧ step.retried .siem = none) →
        ¬(crashed.performAll plainSecrets .standard steps).Claimable plainSecrets "ndel_a" .notification ∧
          ¬(crashed.performAll plainSecrets .standard steps).Claimable plainSecrets "sdel_a" .siem := by
  have hreached : Reached plainSecrets .standard oldTables crashed :=
    Reached.initial.performAll ⟨trivial, trivial, trivial, trivial, trivial, trivial, trivial, trivial⟩
  refine ⟨hreached, abandoned_notification, abandoned_siem, fun steps hsteps ↦ ⟨?_, ?_⟩⟩
  · apply (abandoned_notification.performAll _).not_claimable
    intro step hstep
    rw [(hsteps step hstep).1]
    exact nofun
  · apply (abandoned_siem.performAll _).not_claimable
    intro step hstep
    rw [(hsteps step hstep).2]
    exact nofun

theorem claimable_after_retry :
    (crashed.perform plainSecrets .standard (.retryNotification (13 * 60 * minute) "ten_1" "ndel_a")).Claimable
      plainSecrets "ndel_a" .notification := by
  apply (claimable_again_iff_retried abandoned_notification [] (List.forall_mem_nil _)
    (.retryNotification (13 * 60 * minute) "ten_1" "ndel_a") _).mpr rfl
  exact ⟨by decide +kernel, fun _ _ _ _ ↦ rfl⟩

end Webhookery.Signals
