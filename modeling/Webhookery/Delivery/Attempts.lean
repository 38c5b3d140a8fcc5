import Webhookery.Delivery.DeadLetters

/-!
# The attempts of a delivery

A worker records an attempt with the number that follows the attempt count it read when it claimed the
delivery, and sets the state and the count of the delivery whatever they are by then. As long as every
recording finds the delivery unfinished and with the count of the claim, a finished delivery stays as it
is until it is retried, and the attempts of a delivery are numbered from one to its attempt count.
-/

namespace Webhookery.Delivery

open Go Store App Relational Concurrency Provider Machine

variable {events : List (Transition Op Env DB)} {l : Op} {q q' : Phase} {env : Env} {db db' : DB}
  {crypto : Crypto} {item : DeliveryItem} {result : DeliveryResult}

/-! ## Numbers -/

/-- The numbers of the attempts of a delivery, in the order in which they were recorded. -/
def attemptNumbers (deliveryID : String) (db : DB) : List Nat :=
  (db.attempts.rows.filter (·.deliveryID == deliveryID)).map (·.attemptNo)

/-- The attempts of every delivery are numbered, and belong to deliveries. -/
structure Numbered (db : DB) : Prop where
  numbers : ∀ d ∈ db.deliveries, attemptNumbers d.id db = List.range' 1 d.attemptCount
  named : ∀ a ∈ db.attempts, ∃ d ∈ db.deliveries, d.id = a.deliveryID

/-- Every recording finds its delivery unfinished and with the attempt count that the worker claimed. -/
def Current (e : Transition Op Env DB) : Prop :=
  ∀ crypto item result env, e.kind = .act env →
    recordDeliveryAttempt crypto item result env e.before = .ok ((), e.after) →
    ∀ d ∈ e.before.deliveries, d.tenantID = item.tenantID → d.id = item.id →
      isFinished d = false ∧ d.attemptCount = item.attemptCount

section Steps

theorem numbered_of_map (h : Numbered db) (hrows : db'.deliveries.rows = db.deliveries.rows.map f)
    (hf : ∀ d ∈ db.deliveries, (f d).id = d.id ∧ (f d).attemptCount = d.attemptCount)
    (hattempts : db'.attempts = db.attempts) : Numbered db' where
  numbers := by
    intro d' hd'
    obtain ⟨d, hd, rfl⟩ := (Table.mem_map hrows).mp hd'
    rw [(hf d hd).1, (hf d hd).2, attemptNumbers, hattempts]
    exact h.numbers d hd
  named := by
    intro a ha
    rw [hattempts] at ha
    obtain ⟨d, hd, hid⟩ := h.named a ha
    refine ⟨f d, ?_, (hf d hd).1.trans hid⟩
    exact (Table.mem_map hrows).mpr ⟨_, hd, rfl⟩

theorem attemptNumbers_eq_nil (h : ∀ a ∈ db.attempts, a.deliveryID ≠ deliveryID) :
    attemptNumbers deliveryID db = [] := by
  rw [attemptNumbers, List.map_eq_nil_iff, List.filter_eq_nil_iff]
  intro a ha
  simpa using h a ha

/-- The identifier of a new row is new. -/
theorem numbered_of_append (h : Numbered db)
    (hrows : db'.deliveries.rows = db.deliveries.rows ++ [d]) (hcount : d.attemptCount = 0)
    (hattempts : db'.attempts = db.attempts) : Numbered db' := by
  have hmem {d' : Delivery} : d' ∈ db'.deliveries ↔ d' ∈ db.deliveries ∨ d' = d := by
    simp [Table.mem_def, hrows]
  have hfresh : d ∉ db.deliveries := Table.not_mem_of_rows_append hrows List.mem_cons_self
  constructor
  case numbers =>
    intro d' hd'
    rcases hmem.mp hd' with hold | rfl
    · rw [attemptNumbers, hattempts]
      exact h.numbers d' hold
    · rw [hcount]
      apply attemptNumbers_eq_nil
      intro a ha hid
      rw [hattempts] at ha
      obtain ⟨_, hd₀, hid₀⟩ := h.named a ha
      have hsame := Table.eq_of_key_eq (hmem.mpr (.inl hd₀)) hd' (hid₀.trans hid)
      exact hfresh (hsame ▸ hd₀)
  case named =>
    intro a ha
    rw [hattempts] at ha
    obtain ⟨d₀, hd₀, hid⟩ := h.named a ha
    exact ⟨d₀, hmem.mpr (.inl hd₀), hid⟩

/-- A recording that finds the count of its claim adds the next number. -/
theorem numbered_of_record (h : Numbered db) (hitem : ∃ d ∈ db.deliveries, ItemOf d item)
    (hcount : ∀ d ∈ db.deliveries, d.tenantID = item.tenantID → d.id = item.id →
      d.attemptCount = item.attemptCount)
    (hcommit : recordDeliveryAttempt crypto item result env db = .ok ((), db')) : Numbered db' := by
  obtain ⟨outcome, _, _, hrows, -, rfl⟩ := recordDeliveryAttempt_eq_ok hcommit
  obtain ⟨d₀, hd₀, hof⟩ := hitem
  constructor
  case numbers =>
    intro d' hd'
    obtain ⟨d, hd, rfl⟩ := List.mem_map.mp hd'
    have hnumbers := h.numbers d hd
    rw [attemptNumbers] at hnumbers
    by_cases hmatch : d.id = item.id
    · have htenant : d.tenantID = item.tenantID := by
        rw [Table.eq_of_key_eq hd hd₀ (hmatch.trans hof.id.symm), hof.tenantID]
      rw [if_pos ⟨htenant, hmatch⟩, Delivery.afterAttempt_id]
      have hafter : (d.afterAttempt crypto env.now item outcome).attemptCount = item.attemptCount + 1 := by
        cases outcome <;> rfl
      rw [attemptNumbers, hrows, hafter, List.filter_append, List.map_append, hnumbers,
        hcount d hd htenant hmatch, List.range'_1_concat]
      simp [attemptRow, hmatch, Nat.add_comm]
    · rw [if_neg fun hboth ↦ hmatch hboth.2, attemptNumbers, hrows, List.filter_append, List.map_append,
        hnumbers]
      simp [attemptRow, Ne.symm hmatch]
  case named =>
    intro a ha
    have hexists (d : Delivery) (hd : d ∈ db.deliveries) (hid : d.id = a.deliveryID) :
        ∃ d' ∈ (settleDelivery crypto env.now item outcome db).deliveries, d'.id = a.deliveryID := by
      refine ⟨_, List.mem_map_of_mem hd, ?_⟩
      split
      · exact (d.afterAttempt_id crypto env.now item outcome).trans hid
      · exact hid
    rcases (Table.mem_append hrows).mp ha with hold | hnew
    · obtain ⟨d, hd, hid⟩ := h.named a hold
      exact hexists d hd hid
    · refine hexists d₀ hd₀ ?_
      rw [List.mem_singleton.mp hnew]
      exact hof.id

theorem numbered_of_act (h : Numbered db) (hitems : ItemsExist db q)
    (hcurrent : Current ⟨l, .act env, db, db'⟩) (hact : Act l q env db q' db') : Numbered db' := by
  rcases rowsStep_of_act hact with hstep | ⟨crypto, item, _, result, rfl, -, hcommit⟩
  · cases hstep with
    | retried _ _ _ commits =>
      obtain ⟨_, -, hdb⟩ := bind_eq_ok.mp commits
      cases hdb
      refine numbered_of_map h rfl (fun d _ ↦ ?_) rfl
      split <;> exact ⟨rfl, rfl⟩
    | created _ _ _ rows attempts => exact numbered_of_append h rows rfl attempts
    | carried f carries =>
      refine numbered_of_map h carries.rows (fun d _ ↦ ⟨?_, carries.attemptCount d⟩) carries.attempts
      rw [carries.same d]
  · refine numbered_of_record h (hitems item List.mem_cons_self) (fun d hd htenant hid ↦ ?_) hcommit
    exact (hcurrent crypto item result env rfl hcommit d hd htenant hid).2

/-- A move that neither retries a finished delivery nor records an attempt for it leaves it as it is. -/
theorem finished_of_act (hcurrent : Current ⟨l, .act env, db, db'⟩)
    (hact : Act l q env db q' db') (hd : d ∈ db.deliveries) (hfinished : isFinished d = true) :
    d ∈ db'.deliveries ∨
      l = .retryDelivery d.tenantID d.id ∧ ∃ d' ∈ db'.deliveries, d'.id = d.id := by
  rcases rowsStep_of_act hact with hstep | ⟨crypto, item, _, result, -, -, hcommit⟩
  · cases hstep with
    | retried tenantID deliveryID label commits =>
      obtain ⟨_, -, hdb⟩ := bind_eq_ok.mp commits
      cases hdb
      by_cases hmatch : (d.tenantID == tenantID && d.id == deliveryID && true) = true
      · refine .inr ⟨?_, _, List.mem_map.mpr ⟨d, hd, if_pos hmatch⟩, rfl⟩
        simp only [Bool.and_true, Bool.and_eq_true, beq_iff_eq] at hmatch
        rw [label, hmatch.1, hmatch.2]
      · exact .inl (List.mem_map.mpr ⟨d, hd, if_neg hmatch⟩)
    | created _ _ _ rows => exact .inl ((Table.mem_append rows).mpr (.inl hd))
    | carried f carries =>
      exact .inl ((Table.mem_map carries.rows).mpr ⟨d, hd, carries.finished d hd hfinished⟩)
  · obtain ⟨_, _, _, -, -, rfl⟩ := recordDeliveryAttempt_eq_ok hcommit
    refine .inl (List.mem_map.mpr ⟨d, hd, if_neg fun hmatch ↦ ?_⟩)
    have hopen := (hcurrent crypto item result env rfl hcommit d hd hmatch.1 hmatch.2).1
    rw [hfinished] at hopen
    cases hopen

end Steps

theorem modular_numbered : System.Modular machine Current Numbered fun db _ q ↦ ItemsExist db q :=
  modular_machine (fun _ _ _ ↦ .idle) (fun _ _ _ _ hsilent hP ↦ hP.silent hsilent)
    (fun _ _ _ _ _ _ hI hP hcurrent hact ↦ ⟨numbered_of_act hI hP hcurrent hact, hP.act hact⟩)
    (fun _ _ _ _ _ _ _ _ _ hact _ _ hP ↦ hP.keep hact)

/-! ## Runs -/

/-- A store without attempts. -/
structure Unattempted (db : DB) : Prop where
  attempts : db.attempts.rows = []
  deliveries : ∀ d ∈ db.deliveries, d.attemptCount = 0

theorem Unattempted.numbered (h : Unattempted db) : Numbered db where
  numbers d hd := by
    rw [h.deliveries d hd]
    exact attemptNumbers_eq_nil fun a ha ↦ absurd ha (Table.not_mem_of_rows_eq_nil h.attempts)
  named a ha := absurd ha (Table.not_mem_of_rows_eq_nil h.attempts)

/-- In a run in which every recording finds its delivery unfinished and with the attempt count of the
claim: a finished delivery changes its state only when it is retried, and the attempts of a delivery are
numbered from one to its attempt count. -/
theorem finished_and_numbered {c : Threads Op DB (Work Unit)}
    (hrun : App.system.Run Unattempted events c) (hcurrent : ∀ e ∈ events, Current e) :
    (∀ e ∈ events, ∀ d ∈ e.before.deliveries, isFinished d = true →
      ∃ d' ∈ e.after.deliveries, d'.id = d.id ∧
        (d'.state = d.state ∨ e.label = .retryDelivery d.tenantID d.id)) ∧
    ∀ d ∈ c.state.deliveries, attemptNumbers d.id c.state = List.range' 1 d.attemptCount := by
  obtain ⟨_, hmachine, -⟩ := Machine.simulation.run hrun
  refine ⟨fun e he d hd hfinished ↦ ?_,
    (modular_numbered.run (fun _ h ↦ h.numbered) hmachine hcurrent).state.numbers⟩
  obtain ⟨_, _, rfl⟩ := List.append_of_mem he
  obtain ⟨_, _, -, hstep, -⟩ := hmachine.split
  have hbefore := hstep.before_eq
  have hafter := hstep.after_eq
  rcases exists_act_of_step hstep with heq | ⟨l, -, q, _, _, -, -, rfl, hact⟩
  · rw [hafter, heq, ← hbefore]
    exact ⟨d, hd, rfl, .inl rfl⟩
  · rcases finished_of_act (hcurrent _ he) hact hd hfinished with hsame | ⟨hlabel, d', hd', hid⟩
    · exact ⟨d, hsame, rfl, .inl rfl⟩
    · exact ⟨d', hd', hid, .inr hlabel⟩

/-! ### Deliveries of the shop -/

/-- The attempts that the step adds follow the count of their delivery, which is unfinished. -/
def recordsCurrent (e : Transition Op Env DB) : Bool :=
  (e.after.attempts.rows.drop e.before.attempts.rows.length).all fun a ↦
    e.before.deliveries.rows.all fun d ↦ !(d.tenantID == a.tenantID && d.id == a.deliveryID) ||
      !isFinished d && d.attemptCount + 1 == a.attemptNo

theorem current_of_records (h : recordsCurrent e = true) : Current e := by
  intro crypto item result env _ hcommit d hd htenant hid
  obtain ⟨outcome, _, _, hrows, -, hdb⟩ := recordDeliveryAttempt_eq_ok hcommit
  have hattempts : e.after.attempts.rows.drop e.before.attempts.rows.length =
      [attemptRow crypto env item result outcome] := by
    rw [hdb, hrows, List.drop_left]
  rw [recordsCurrent, hattempts, List.all_cons, Bool.and_eq_true, List.all_eq_true] at h
  have hrow := h.1 d hd
  simp only [attemptRow, htenant, hid, beq_self_eq_true, Bool.and_self, Bool.not_true, Bool.false_or,
    Bool.and_eq_true, Bool.not_eq_true', beq_iff_eq, Nat.add_right_cancel_iff] at hrow
  exact hrow

theorem unattempted_shopSigning : Unattempted shopSigning where
  attempts := by decide +kernel
  deliveries := by decide +kernel

/-- Both deliveries of the shop were dead-lettered, retried and have succeeded with their second
attempt. -/
theorem retried_deliveries_numbered :
    (∀ e ∈ retriedRun.1, Current e) ∧
      retriedRun.2.state.deliveries.rows.map (fun d ↦ (d.id, d.state, d.attemptCount)) =
        [("del_15", .succeeded, 2), ("del_17", .succeeded, 2)] ∧
      ∀ d ∈ retriedRun.2.state.deliveries,
        attemptNumbers d.id retriedRun.2.state = List.range' 1 d.attemptCount := by
  have hrun : App.system.Run Unattempted retriedRun.1 retriedRun.2 :=
    run_runScript unattempted_shopSigning
  have hcheck : ∀ e ∈ retriedRun.1, recordsCurrent e = true := by decide +kernel
  have hcurrent : ∀ e ∈ retriedRun.1, Current e := fun e he ↦ current_of_records (hcheck e he)
  exact ⟨hcurrent, by decide +kernel, (finished_and_numbered hrun hcurrent).2⟩

/-- The endpoint is busy. -/
def busyClient (_ : DeliveryItem) : ClientReply := ⟨true, ⟨503, [], "", false⟩⟩

/-- A worker claims the first delivery and gets no answer before its lease expires. A second worker
delivers it, and then the first one records that the endpoint is busy. -/
def staleRun : AppRun := runScript
  (routedScript ++ [.start (.runDeliveries checksum busyClient "worker_1" 1), .go 1 2 (shopFrom 30),
    .start (.runDeliveries checksum shopClient "worker_2" 1),
    .go 2 3 (fun n ↦ { shopFrom 40 n with now := 2 * deliveryLeaseTime }),
    .go 1 1 (fun _ ↦ { shopEnv 50 with now := 2 * deliveryLeaseTime })]) shopSigning

/-- The delivery has succeeded and is scheduled again, although nobody retried it, and both of its
attempts are its first one. -/
theorem stale_recording_reopens :
    App.system.Run Unattempted staleRun.1 staleRun.2 ∧
      (∀ e ∈ staleRun.1, ∀ tenantID deliveryID, e.label ≠ .retryDelivery tenantID deliveryID) ∧
      (∃ e ∈ staleRun.1, ∃ d ∈ e.before.deliveries, d.id = "del_15" ∧ d.state = .succeeded ∧
        ∃ d' ∈ e.after.deliveries, d'.id = "del_15" ∧ d'.state = .scheduled) ∧
      ∃ d ∈ staleRun.2.state.deliveries, d.id = "del_15" ∧ d.attemptCount = 1 ∧
        attemptNumbers "del_15" staleRun.2.state = [1, 1] := by
  refine ⟨run_runScript unattempted_shopSigning, ?_, ?_, ?_⟩
  · have hlabels : ∀ e ∈ staleRun.1, (e.label matches .retryDelivery _ _) = false := by decide +kernel
    intro e he _ _ hlabel
    simpa [hlabel] using hlabels e he
  · decide +kernel
  · decide +kernel

end Webhookery.Delivery
