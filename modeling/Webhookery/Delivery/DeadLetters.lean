import Webhookery.Store.Search
import Webhookery.Delivery.Payloads

/-!
# Dead-letter entries

A delivery whose last attempt failed is dead-lettered and gets an open entry. The entry is closed when it
is released, but not when an operator retries the delivery or when a worker that lost its lease records
another attempt. As long as neither happens to a delivery with an open entry, every delivery has at most
one and is dead-lettered as long as it has one.
-/

namespace Webhookery.Delivery

open Go Store App Relational Concurrency Provider Machine

variable {events : List (Transition Op Env DB)} {l : Op} {q q' : Phase} {env : Env} {db db' : DB}

/-- The delivery has an open entry. -/
def OpenEntry (db : DB) (deliveryID : String) : Prop :=
  ∃ entry ∈ db.deadLetters.rows, entry.released = false ∧ entry.deliveryID = deliveryID

/-- The step neither retries a delivery with an open entry nor records an attempt for one. -/
structure Undisturbed (e : Transition Op Env DB) : Prop where
  retried : ∀ tenantID deliveryID env, e.label = .retryDelivery tenantID deliveryID →
    e.kind = .act env → retryDelivery tenantID deliveryID env e.before = .ok ((), e.after) →
    ¬OpenEntry e.before deliveryID
  recorded : ∀ crypto item result env, e.kind = .act env →
    recordDeliveryAttempt crypto item result env e.before = .ok ((), e.after) →
    ¬OpenEntry e.before item.id

/-! ## What moves do to deliveries and entries -/

/-- The delivery has succeeded, was canceled or is dead-lettered. -/
def isFinished (d : Delivery) : Bool :=
  d.state == .succeeded || d.state == .deadLettered || d.state == .canceled

/-- Entries stay, but some may have been released. -/
def EntriesKept (db db' : DB) : Prop :=
  ∃ f : DeadLetterEntry → DeadLetterEntry, db'.deadLetters.rows = db.deadLetters.rows.map f ∧
    ∀ entry, f entry = entry ∨ f entry = { entry with released := true }

theorem EntriesKept.of_eq (h : db'.deadLetters = db.deadLetters) : EntriesKept db db' :=
  ⟨id, by rw [h, List.map_id], fun _ ↦ .inl rfl⟩

/-- The rows of deliveries before and after a step that creates none, records no attempt and retries
nothing. Only delivery workers claim and send; elsewhere deliveries are canceled at most. -/
structure Carries (l : Op) (db db' : DB) (f : Delivery → Delivery) : Prop where
  rows : db'.deliveries.rows = db.deliveries.rows.map f
  same : ∀ d, SameSnapshot d (f d)
  attemptCount : ∀ d, (f d).attemptCount = d.attemptCount
  finished : ∀ d ∈ db.deliveries, isFinished d = true → f d = d
  canceled : l.delivers = false → ∀ d, f d = d ∨
    f d = { d with state := .canceled, lockedBy := none, lockExpiresAt := none }
  attempts : db'.attempts = db.attempts
  sent : l.delivers = false → db'.sent = db.sent
  policies : PoliciesKept db db'
  entries : EntriesKept db db'

/-- What a move that records no attempt does to deliveries. -/
inductive RowsStep (l : Op) (env : Env) (db db' : DB) : Prop
  | retried (tenantID deliveryID : String) (label : l = .retryDelivery tenantID deliveryID)
      (commits : retryDelivery tenantID deliveryID env db = .ok ((), db')) : RowsStep l env db db'
  | created (codec : PayloadCodec) (req : DeliverySnapshotRequest) (ref : PayloadRef)
      (rows : db'.deliveries.rows = db.deliveries.rows ++ [(deliveryRow codec.crypto env req).withPayload ref])
      (attempts : db'.attempts = db.attempts) (sent : db'.sent = db.sent)
      (policies : PoliciesKept db db') (entries : db'.deadLetters = db.deadLetters) : RowsStep l env db db'
  | carried (f : Delivery → Delivery) (carries : Carries l db db' f) : RowsStep l env db db'

theorem RowsStep.of_eq (hdeliveries : db'.deliveries = db.deliveries)
    (hattempts : db'.attempts = db.attempts) (hsent : l.delivers = false → db'.sent = db.sent)
    (hpolicies : PoliciesKept db db') (hentries : EntriesKept db db') : RowsStep l env db db' :=
  .carried id ⟨by rw [hdeliveries, List.map_id], .refl, fun _ ↦ rfl, fun _ _ _ ↦ rfl,
    fun _ _ ↦ .inl rfl, hattempts, hsent, hpolicies, hentries⟩

/-- A claim takes deliveries that are scheduled, or whose lease has expired. -/
theorem claimUpdate_of_finished (hd : d ∈ db.deliveries) (hfinished : isFinished d = true) :
    deliveryClaimUpdate workerID now ((claimedDeliveries db now limit
      (db.deliveries.rows.map (Delivery.released now))).map Delivery.id) d = d := by
  apply deliveryClaimUpdate_eq_self hd <;> intro hstate <;> simp [isFinished, hstate] at hfinished

theorem carries_of_claim (hdelivers : l.delivers = true)
    (h : claimDueDeliveries workerID limit env db = .ok (items, db')) : ∃ f, Carries l db db' f := by
  obtain ⟨_, -, h⟩ := bind_eq_ok.mp h
  cases h
  have hworker : ¬l.delivers = false := by rw [hdelivers]; decide
  refine ⟨_, rfl, sameSnapshot_claimUpdate workerID env.now _, fun d ↦ ?_,
    fun _ ↦ claimUpdate_of_finished, fun h ↦ absurd h hworker, rfl, fun h ↦ absurd h hworker, .of_eq rfl,
    .of_eq rfl⟩
  unfold deliveryClaimUpdate Delivery.released Delivery.claimedBy
  split <;> split <;> rfl

theorem carries_of_cancel (h : cancelDelivery tenantID deliveryID db = .ok ((), db')) :
    ∃ f, Carries l db db' f := by
  obtain ⟨_, -, h⟩ := bind_eq_ok.mp h
  cases h
  refine ⟨_, rfl, fun d ↦ ?_, fun d ↦ ?_, fun d _ hfinished ↦ if_neg fun hguard ↦ ?_, fun _ d ↦ ?_, rfl,
    fun _ ↦ rfl, .of_eq rfl, .of_eq rfl⟩
  · split <;> rfl
  · split <;> rfl
  · simp only [Bool.and_eq_true, Bool.not_eq_true'] at hguard
    exact absurd hfinished (by simp only [isFinished, hguard.2, Bool.false_eq_true, not_false_eq_true])
  · split
    · exact .inr rfl
    · exact .inl rfl

theorem rowsStep_of_act (h : Act l q env db q' db') :
    RowsStep l env db db' ∨ ∃ crypto item rest result, q = .recording item rest ∧
      l.delivers = true ∧ recordDeliveryAttempt crypto item result env db = .ok ((), db') := by
  cases deliveryMove_of_act h with
  | dispatch dispatch =>
    cases dispatch with
    | claim _ _ _ delivers commits =>
      obtain ⟨f, hcarries⟩ := carries_of_claim delivers commits
      exact .inl (.carried f hcarries)
    | send _ _ delivers =>
      refine .inl (.of_eq rfl rfl (fun hl ↦ ?_) (.of_eq rfl) (.of_eq rfl))
      exact absurd (delivers.symm.trans hl) (by decide)
    | unsent => exact .inl (.of_eq rfl rfl (fun _ ↦ rfl) (.of_eq rfl) (.of_eq rfl))
    | record crypto item rest result _ delivers commits =>
      exact .inr ⟨crypto, item, rest, result, rfl, delivers, commits⟩
    | retain _ commits =>
      cases commits
      exact .inl (.of_eq rfl rfl (fun _ ↦ rfl) (.of_eq rfl) (.of_eq rfl))
    | retry tenantID deliveryID commits => exact .inl (.retried tenantID deliveryID rfl commits)
    | cancel _ _ commits =>
      obtain ⟨f, hcarries⟩ := carries_of_cancel commits
      exact .inl (.carried f hcarries)
    | release _ _ _ _ _ commits =>
      cases commits
      refine .inl (.of_eq rfl rfl (fun _ ↦ rfl) (.of_eq rfl) ⟨_, rfl, fun entry ↦ ?_⟩)
      split
      · exact .inr rfl
      · exact .inl rfl
  | snapshot taken =>
    refine .inl (.created _ _ _ taken.deliveries ?_ ?_ (.of_eq ?_) ?_) <;> rw [taken.frame]
  | other same =>
    exact .inl (.of_eq same.deliveries same.attempts (fun _ ↦ same.sent) same.retryPolicies
      (.of_eq same.deadLetters))

/-! ## Open entries -/

/-- A delivery has one open entry at most, and is dead-lettered when it has one. -/
structure EntriesSound (db : DB) : Prop where
  unique : ∀ entry₁ ∈ db.deadLetters, ∀ entry₂ ∈ db.deadLetters, entry₁.released = false →
    entry₂.released = false → entry₁.deliveryID = entry₂.deliveryID → entry₁ = entry₂
  delivery : ∀ entry ∈ db.deadLetters, entry.released = false → ∃ d ∈ db.deliveries,
    d.id = entry.deliveryID ∧ d.tenantID = entry.tenantID ∧ d.eventID = entry.eventID ∧
      d.state = .deadLettered

/-- Deliveries with an open entry that stay as they are. -/
theorem EntriesSound.delivery_of (h : EntriesSound db) (db' : DB)
    (hentry : entry ∈ db.deadLetters) (hopen : entry.released = false)
    (hkeep : ∀ d ∈ db.deliveries, d.id = entry.deliveryID → d.state = .deadLettered →
      d ∈ db'.deliveries) :
    ∃ d ∈ db'.deliveries, d.id = entry.deliveryID ∧ d.tenantID = entry.tenantID ∧
      d.eventID = entry.eventID ∧ d.state = .deadLettered := by
  obtain ⟨d, hd, hid, htenant, hevent, hstate⟩ := h.delivery entry hentry hopen
  exact ⟨d, hkeep d hd hid hstate, hid, htenant, hevent, hstate⟩

theorem entriesSound_of_retry (hI : EntriesSound db)
    (hnone : ¬OpenEntry db deliveryID) (h : retryDelivery tenantID deliveryID env db = .ok ((), db')) :
    EntriesSound db' := by
  obtain ⟨_, -, h⟩ := bind_eq_ok.mp h
  cases h
  refine ⟨hI.unique, fun entry hentry hopen ↦ hI.delivery_of _ hentry hopen fun d hd hid _ ↦ ?_⟩
  refine List.mem_map.mpr ⟨d, hd, if_neg fun hmatch ↦ hnone ⟨entry, hentry, hopen, ?_⟩⟩
  simp only [Bool.and_true, Bool.and_eq_true, beq_iff_eq] at hmatch
  exact hid.symm.trans hmatch.2

theorem entriesSound_of_record {crypto : Crypto} {item : DeliveryItem} {result : DeliveryResult}
    (hI : EntriesSound db) (hP : ∃ d ∈ db.deliveries, ItemOf d item) (hnone : ¬OpenEntry db item.id)
    (h : recordDeliveryAttempt crypto item result env db = .ok ((), db')) : EntriesSound db' := by
  obtain ⟨outcome, attempts, entries, -, hrows, rfl⟩ := recordDeliveryAttempt_eq_ok h
  -- deliveries with an open entry are others than that of the attempt
  have hold (entry : DeadLetterEntry) (hentry : entry ∈ db.deadLetters) (hopen : entry.released = false) :=
    hI.delivery_of { settleDelivery crypto env.now item outcome db with
      attempts := attempts, deadLetters := entries } hentry hopen fun d hd hid _ ↦
        List.mem_map.mpr ⟨d, hd, if_neg fun hmatch ↦
          hnone ⟨entry, hentry, hopen, hid.symm.trans hmatch.2⟩⟩
  cases outcome with
  | succeeded | retry =>
    simp only [newDeadLetters, List.append_nil] at hrows
    have hmem (entry : DeadLetterEntry) : entry ∈ entries ↔ entry ∈ db.deadLetters := by
      rw [Table.mem_def, Table.mem_def, hrows]
    refine ⟨fun entry₁ h₁ entry₂ h₂ ↦ hI.unique entry₁ ((hmem _).mp h₁) entry₂ ((hmem _).mp h₂),
      fun entry hentry hopen ↦ hold entry ((hmem entry).mp hentry) hopen⟩
  | deadLettered =>
    have hcases {entry : DeadLetterEntry} (hentry : entry ∈ entries) (hopen : entry.released = false) :
        entry ∈ db.deadLetters ∧ entry.deliveryID ≠ item.id ∨
          entry ∈ newDeadLetters env item (attemptFailureClass result) .deadLettered := by
      rcases (Table.mem_append hrows).mp hentry with hentry | hentry
      · exact .inl ⟨hentry, fun hid ↦ hnone ⟨entry, hentry, hopen, hid⟩⟩
      · exact .inr hentry
    have hnew {entry : DeadLetterEntry}
        (hentry : entry ∈ newDeadLetters env item (attemptFailureClass result) .deadLettered) :
        entry.deliveryID = item.id ∧ entry.tenantID = item.tenantID ∧ entry.eventID = item.eventID := by
      rw [List.mem_singleton.mp hentry]
      exact ⟨rfl, rfl, rfl⟩
    constructor
    case unique =>
      intro entry₁ h₁ entry₂ h₂ hopen₁ hopen₂ hsame
      rcases hcases h₁ hopen₁ with ⟨h₁, hother₁⟩ | h₁ <;> rcases hcases h₂ hopen₂ with ⟨h₂, hother₂⟩ | h₂
      · exact hI.unique entry₁ h₁ entry₂ h₂ hopen₁ hopen₂ hsame
      · exact absurd (hsame.trans (hnew h₂).1) hother₁
      · exact absurd (hsame.symm.trans (hnew h₁).1) hother₂
      · rw [List.mem_singleton.mp h₁, List.mem_singleton.mp h₂]
    case delivery =>
      intro entry hentry hopen
      rcases hcases hentry hopen with ⟨hentry, -⟩ | hentry
      · exact hold entry hentry hopen
      · obtain ⟨hid, htenant, hevent⟩ := hnew hentry
        obtain ⟨d, hd, hof⟩ := hP
        refine ⟨_, List.mem_map.mpr ⟨d, hd, if_pos ⟨hof.tenantID, hof.id⟩⟩, ?_, ?_, ?_, rfl⟩
        · exact hof.id.trans hid.symm
        · exact hof.tenantID.trans htenant.symm
        · exact hof.eventID.trans hevent.symm

theorem EntriesSound.keep (hI : EntriesSound db) (hentries : EntriesKept db db')
    (hdeliveries : ∀ d ∈ db.deliveries, d.state = .deadLettered → d ∈ db'.deliveries) :
    EntriesSound db' := by
  obtain ⟨f, hrows, hreleased⟩ := hentries
  -- an entry that is open was open before
  have hback {entry : DeadLetterEntry} (hentry : entry ∈ db'.deadLetters)
      (hopen : entry.released = false) : entry ∈ db.deadLetters := by
    obtain ⟨entry₀, _, rfl⟩ := (Table.mem_map hrows).mp hentry
    rcases hreleased entry₀ with hsame | hreleased
    · rwa [hsame]
    · rw [hreleased] at hopen
      cases hopen
  refine ⟨fun entry₁ h₁ entry₂ h₂ hopen₁ hopen₂ hsame ↦ ?_, fun entry hentry hopen ↦ ?_⟩
  · exact hI.unique entry₁ (hback h₁ hopen₁) entry₂ (hback h₂ hopen₂) hopen₁ hopen₂ hsame
  · exact hI.delivery_of _ (hback hentry hopen) hopen fun d hd _ hstate ↦ hdeliveries d hd hstate

theorem entriesSound_of_act (hI : EntriesSound db) (hP : ItemsExist db q)
    (hcalm : Undisturbed ⟨l, .act env, db, db'⟩) (hact : Act l q env db q' db') : EntriesSound db' := by
  rcases rowsStep_of_act hact with hstep | ⟨crypto, item, _, result, rfl, -, hcommit⟩
  · cases hstep with
    | retried tenantID deliveryID label commits =>
      exact entriesSound_of_retry hI (hcalm.retried tenantID deliveryID env label rfl commits) commits
    | created _ _ _ rows _ _ _ entries =>
      exact hI.keep (.of_eq entries) fun d hd _ ↦ (Table.mem_append rows).mpr (.inl hd)
    | carried f carries =>
      refine hI.keep carries.entries fun d hd hstate ↦ (Table.mem_map carries.rows).mpr ⟨d, hd, ?_⟩
      exact carries.finished d hd (by simp [isFinished, hstate])
  · exact entriesSound_of_record hI (hP item List.mem_cons_self)
      (hcalm.recorded crypto item result env rfl hcommit) hcommit

theorem modular_entries : System.Modular machine Undisturbed EntriesSound (fun db _ q ↦ ItemsExist db q) :=
  modular_machine (fun _ _ _ ↦ .idle) (fun _ _ _ _ hsilent hP ↦ hP.silent hsilent)
    (fun _ _ _ _ _ _ hI hP hcalm hact ↦ ⟨entriesSound_of_act hI hP hcalm hact, hP.act hact⟩)
    (fun _ _ _ _ _ _ _ _ _ hact _ _ hP ↦ hP.keep hact)

/-! ## Runs -/

/-- A store without dead letters. -/
def NoDeadLetters (db : DB) : Prop := db.deadLetters.rows = []

/-- In a run in which deliveries with an open entry are neither retried nor attempted: a delivery has at
most one open entry, the delivery of an open entry is dead-lettered, and a search for dead letters finds
only events with a dead-lettered delivery. -/
theorem open_entries_dead_lettered {c : Threads Op DB (Work Unit)}
    (hrun : App.system.Run NoDeadLetters events c) (hcalm : ∀ e ∈ events, Undisturbed e) :
    (∀ entry₁ ∈ c.state.deadLetters, ∀ entry₂ ∈ c.state.deadLetters, entry₁.released = false →
        entry₂.released = false → entry₁.deliveryID = entry₂.deliveryID → entry₁ = entry₂) ∧
      (∀ entry ∈ c.state.deadLetters, entry.released = false →
        ∃ d ∈ c.state.deliveries, d.id = entry.deliveryID ∧ d.state = .deadLettered) ∧
      ∀ tenantID req, req.status = "dlq" ∨ req.status = "dead_lettered" →
        ∀ e ∈ listEvents tenantID req c.state, ∃ d ∈ c.state.deliveries,
          d.tenantID = tenantID ∧ d.eventID = e.id ∧ d.state = .deadLettered := by
  obtain ⟨_, hmachine, -⟩ := Machine.simulation.run hrun
  have hinit (db : DB) (h : NoDeadLetters db) : EntriesSound db :=
    ⟨fun _ h₁ ↦ absurd h₁ (Table.not_mem_of_rows_eq_nil h),
      fun _ hentry ↦ absurd hentry (Table.not_mem_of_rows_eq_nil h)⟩
  have hsound := (modular_entries.run hinit hmachine hcalm).state
  refine ⟨hsound.unique, fun entry hentry hopen ↦ ?_, fun tenantID req hstatus e he ↦ ?_⟩
  · obtain ⟨d, hd, hid, -, -, hstate⟩ := hsound.delivery entry hentry hopen
    exact ⟨d, hd, hid, hstate⟩
  · obtain ⟨-, entry, hentry, htenant, hevent, hopen⟩ := exists_entry_of_listEvents hstatus he
    obtain ⟨d, hd, -, htenant', hevent', hstate⟩ := hsound.delivery entry hentry hopen
    exact ⟨d, hd, htenant'.trans htenant, hevent'.trans hevent, hstate⟩

/-! ### A delivery of the shop that fails -/

/-- The endpoint refuses every request. -/
def refusingClient (_ : DeliveryItem) : ClientReply := ⟨true, ⟨404, [], "", false⟩⟩

/-- The event is routed, and the first of its deliveries fails. -/
def refusedScript : List (Command Op Env) :=
  routedScript ++ [.start (.runDeliveries checksum refusingClient "worker" 1), .go 1 20 (shopFrom 30)]

def refusedRun : AppRun := runScript refusedScript shopSigning

theorem noDeadLetters_shopSigning : NoDeadLetters shopSigning := by
  unfold NoDeadLetters
  decide +kernel

/-- The step adds no attempt, or all entries are released. -/
def quiet (e : Transition Op Env DB) : Bool :=
  e.after.attempts.rows.length == e.before.attempts.rows.length || e.before.deadLetters.rows.all (·.released)

theorem undisturbed_of_quiet (hquiet : quiet e = true)
    (hlabel : ∀ tenantID deliveryID, e.label ≠ .retryDelivery tenantID deliveryID) : Undisturbed e where
  retried tenantID deliveryID _ hretry := absurd hretry (hlabel tenantID deliveryID)
  recorded crypto item result env _ hcommit := by
    rintro ⟨entry, hentry, hopen, -⟩
    obtain ⟨_, _, _, hrows, -, hdb⟩ := recordDeliveryAttempt_eq_ok hcommit
    rw [quiet, Bool.or_eq_true, hdb] at hquiet
    rcases hquiet with hsame | hreleased
    · simp [hrows] at hsame
    · rw [List.all_eq_true.mp hreleased entry hentry] at hopen
      cases hopen

def dlqSearch : EventSearchRequest := ⟨0, "", "", "", "dlq", "", none, ""⟩

/-- The search finds the event of the shop, which has a dead-lettered delivery. -/
theorem refused_delivery_found :
    (∀ e ∈ refusedRun.1, Undisturbed e) ∧
      (listEvents "t" dlqSearch refusedRun.2.state).map (·.id) = ["evt_1"] ∧
      ∀ e ∈ listEvents "t" dlqSearch refusedRun.2.state, ∃ d ∈ refusedRun.2.state.deliveries,
        d.tenantID = "t" ∧ d.eventID = e.id ∧ d.state = .deadLettered := by
  have hrun : App.system.Run NoDeadLetters refusedRun.1 refusedRun.2 :=
    run_runScript noDeadLetters_shopSigning
  have hquiet : ∀ e ∈ refusedRun.1, quiet e = true ∧ (e.label matches .retryDelivery _ _) = false := by decide +kernel
  have hcalm : ∀ e ∈ refusedRun.1, Undisturbed e := by
    intro e he
    refine undisturbed_of_quiet (hquiet e he).1 fun _ _ hlabel ↦ ?_
    simpa [hlabel] using (hquiet e he).2
  exact ⟨hcalm, by decide +kernel, (open_entries_dead_lettered hrun hcalm).2.2 "t" dlqSearch (.inl rfl)⟩

/-! ### Retrying dead-lettered deliveries -/

/-- Both deliveries of the event fail. An operator retries them, and the endpoint takes them. -/
def retriedRun : AppRun := runScript
  (routedScript ++ [.start (.runDeliveries checksum refusingClient "worker" 10), .go 1 20 (shopFrom 30),
    .start (.retryDelivery "t" "del_15"), .go 2 1 (fun _ ↦ shopEnv 60),
    .start (.retryDelivery "t" "del_17"), .go 3 1 (fun _ ↦ shopEnv 61),
    .start (.runDeliveries checksum shopClient "worker" 10),
    .go 4 20 (fun n ↦ { shopFrom 70 n with now := 60 * minute })]) shopSigning

/-- All deliveries of the event have succeeded, their entries are open, and the search for dead letters
finds the event. -/
theorem retried_deliveries_stay_listed :
    App.system.Run NoDeadLetters retriedRun.1 retriedRun.2 ∧
      retriedRun.2.state.deliveries.rows.map (fun d ↦ (d.id, d.eventID, d.state)) =
        [("del_15", "evt_1", .succeeded), ("del_17", "evt_1", .succeeded)] ∧
      retriedRun.2.state.deadLetters.rows.map (fun entry ↦ (entry.deliveryID, entry.released)) =
        [("del_15", false), ("del_17", false)] ∧
      (listEvents "t" dlqSearch retriedRun.2.state).map (·.id) = ["evt_1"] :=
  ⟨run_runScript noDeadLetters_shopSigning,
    by decide +kernel, by decide +kernel, by decide +kernel⟩

end Webhookery.Delivery
