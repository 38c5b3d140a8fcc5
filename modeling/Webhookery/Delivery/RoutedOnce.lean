import Webhookery.Machine.Slots
import Webhookery.Delivery.ExactlyOnce
import Webhookery.Concurrency.Execution

/-!
# An event is routed once

A worker creates the deliveries of an event one transaction at a time and completes the outbox row
afterwards. When its lease expires before that, another worker claims the row and creates the same
deliveries again. As long as no lease on the row of an event expires before a worker claims, the event
gets at most one delivery for every subscription and route.
-/

namespace Webhookery.Delivery

open Go Store App Relational Concurrency Machine

variable {events : List (Transition Op Env DB)} {l : Op} {q q' : Phase} {env : Env} {db db' : DB}
  {eventID : String} {slot : Slot}

/-- The item routes the event. -/
def routesEvent (eventID : String) (item : OutboxItem) : Bool :=
  OutboxKind.routes item.kind && item.resourceID == eventID

/-- The event has no more than one routing row. -/
def OneRow (eventID : String) (db : DB) : Prop :=
  db.outbox.rows.countP (fun o ↦ routesEvent eventID o.item) ≤ 1

instance (eventID : String) (db : DB) : Decidable (OneRow eventID db) :=
  inferInstanceAs (Decidable (_ ≤ _))

/-- When workers claim, no routing row of the event is in progress with a lease that has expired. -/
def LeaseHeld (eventID : String) (e : Transition Op Env DB) : Prop :=
  ∀ codec registry workerID limit env items, e.label = .runOutbox codec registry workerID limit →
    e.kind = .act env →
    claimOutbox workerID (if limit ≤ 0 then 10 else limit.toNat) env e.before = .ok (items, e.after) →
    ∀ o ∈ e.before.outbox.rows, routesEvent eventID o.item = true → ¬o.Expired env.now

/-! ## Rows that nobody has claimed -/

def Unclaimed (eventID : String) (db : DB) : Prop :=
  ∀ o ∈ db.outbox.rows, routesEvent eventID o.item = true → o.state = .pending

instance (eventID : String) (db : DB) : Decidable (Unclaimed eventID db) :=
  inferInstanceAs (Decidable (∀ o ∈ db.outbox.rows, _))

theorem Unclaimed.of_act (h : Unclaimed eventID db') (hheld : LeaseHeld eventID ⟨l, .act env, db, db'⟩)
    (hact : Act l q env db q' db') : Unclaimed eventID db := by
  intro o ho hroutes
  cases outboxStep_of_act hact with
  | appended _ outbox =>
    exact h o (by rw [outbox]; exact List.mem_append_left _ ho) hroutes
  | claimed codec registry workerID limit items label _ _ commits =>
    have hlease := hheld codec registry workerID limit env items label rfl commits o ho hroutes
    cases commits
    have hpending := claimUpdate_pending (h _ (List.mem_map_of_mem ho) (by rwa [claimUpdate_item]))
    rwa [released_of_not_expired hlease] at hpending
  | finished _ _ _ _ commits =>
    cases commits
    have hpending := h _ (List.mem_map_of_mem ho) (by split <;> exact hroutes)
    split at hpending
    · cases hpending
    · exact hpending

/-- A worker that claims the row of the event is the first one. -/
theorem unclaimed_of_claim (h : claimOutbox workerID limit env db = .ok (items, db')) (hone : OneRow eventID db)
    (hlease : ∀ o ∈ db.outbox.rows, routesEvent eventID o.item = true → ¬o.Expired env.now)
    (hitem : item ∈ items) (hroutes : routesEvent eventID item = true) :
    Unclaimed eventID db ∧ ¬Unclaimed eventID db' := by
  obtain ⟨o, ho, rfl, hpending, o', ho', hsame, hprogress, -⟩ := row_of_claimOutbox h hitem
  refine ⟨fun o₁ ho₁ hroutes₁ ↦ ?_, fun hunclaimed ↦ ?_⟩
  · obtain rfl : o₁ = o := Table.eq_of_countP_le_one hone ho₁ ho hroutes₁ hroutes
    rwa [released_of_not_expired (hlease o₁ ho₁ hroutes₁)] at hpending
  · have hstate := hunclaimed o' ho' (by rwa [hsame])
    rw [hprogress] at hstate
    cases hstate

/-! ## What a worker may still create -/

/-- What the items of a worker may still create for the slot of the event. -/
def mayRoute (eventID : String) (slot : Slot) : Phase → Nat
  | .items held => held.countP (routesEvent eventID)
  | .working item (.fanout none todo) rest =>
    (if item.resourceID = eventID then slot.left eventID "" todo else 0) +
      rest.countP (routesEvent eventID)
  | .working _ _ rest => rest.countP (routesEvent eventID)
  | _ => 0

/-- What was created for the slot, and what a worker that claims the row may create. -/
def routed (eventID : String) (slot : Slot) (db : DB) : Nat :=
  slot.taken "" eventID db + if Unclaimed eventID db then 1 else 0

structure RoutesOnce (eventID : String) (e : Transition Op Env DB) : Prop where
  oneRow : OneRow eventID e.before
  leaseHeld : LeaseHeld eventID e

theorem mayRoute_rest_le (item : OutboxItem) (task : Task) (rest : List OutboxItem) :
    rest.countP (routesEvent eventID) ≤ mayRoute eventID slot (.working item task rest) := by
  match task with
  | .fanout none todo => exact Nat.le_add_left _ _
  | .fanout (some work) todo => exact le_rfl
  | .loaded work => exact le_rfl
  | .settled => exact le_rfl

theorem mayRoute_items_le (item : OutboxItem) (rest : List OutboxItem) :
    rest.countP (routesEvent eventID) ≤ mayRoute eventID slot (.items (item :: rest)) :=
  (List.sublist_cons_self item rest).countP_le

theorem mayRoute_fanout_le
    (h : item.resourceID = eventID → slot.left eventID "" todo' ≤ slot.left eventID "" todo) :
    mayRoute eventID slot (.working item (.fanout none todo') rest) ≤
      mayRoute eventID slot (.working item (.fanout none todo) rest) := by
  apply Nat.add_le_add_right
  split
  case isTrue hevent => exact h hevent
  case isFalse => exact le_rfl

theorem mayRoute_of_silent (h : Silent q q₀) : mayRoute eventID slot q₀ ≤ mayRoute eventID slot q := by
  cases h with
  | skip item rest => exact mayRoute_items_le item rest
  | drop item task rest => exact mayRoute_rest_le item task rest
  | route _ _ routes =>
    simp only [mayRoute, Slot.left, List.countP_cons, routesEvent, routes, Bool.true_and, beq_iff_eq]
    omega
  | delivery _ job _ _ ofEvent =>
    cases job with
    | none => exact mayRoute_fanout_le fun _ ↦ slot.left_delivery_le _ _ ofEvent
    | some => exact le_rfl
  | done _ job =>
    cases job with
    | none => exact mayRoute_fanout_le fun _ ↦ Nat.zero_le _
    | some => exact le_rfl

/-- Without a delivery, a move leaves less to create or claims the row. -/
theorem mayRoute_of_act (hslot : slot.id ≠ "") (honce : RoutesOnce eventID ⟨l, .act env, db, db'⟩)
    (hact : Act l q env db q' db') :
    mayRoute eventID slot q' + (if Unclaimed eventID db' then 1 else 0) ≤
      mayRoute eventID slot q + if Unclaimed eventID db then 1 else 0 := by
  have hunclaimed : (if Unclaimed eventID db' then 1 else 0) ≤ if Unclaimed eventID db then 1 else 0 := by
    have hkeep : Unclaimed eventID db' → Unclaimed eventID db := fun h ↦ h.of_act honce.leaseHeld hact
    by_cases h' : Unclaimed eventID db' <;> simp [h', hkeep]
  have hless (h : mayRoute eventID slot q' ≤ mayRoute eventID slot q) :
      mayRoute eventID slot q' + (if Unclaimed eventID db' then 1 else 0) ≤
        mayRoute eventID slot q + if Unclaimed eventID db then 1 else 0 := Nat.add_le_add h hunclaimed
  cases hact with
  | outside | approve | pause | resume | cancel | start | noop | complete => exact hless le_rfl
  | dispatch dispatch =>
    apply hless
    cases dispatch <;> exact le_rfl
  | create _ _ _ _ _ next =>
    apply hless
    cases next <;> exact le_rfl
  | claim codec registry workerID limit items commits =>
    have hlease := honce.leaseHeld codec registry workerID limit env items rfl rfl commits
    have hcount : items.countP (routesEvent eventID) ≤ 1 :=
      (countP_claimOutbox_le commits _).trans honce.oneRow
    by_cases hnone : items.countP (routesEvent eventID) = 0
    · apply hless
      simp [mayRoute, hnone]
    · -- the row of the event is among those that were claimed
      obtain ⟨_, hitem, hroutes⟩ := List.countP_pos_iff.mp (Nat.pos_of_ne_zero hnone)
      obtain ⟨hbefore, hafter⟩ := unclaimed_of_claim commits honce.oneRow hlease hitem hroutes
      simpa [mayRoute, hbefore, hafter] using hcount
  | load item rest | settle item rest => exact hless (mayRoute_items_le item rest)
  | learn _ job _ _ _ learns =>
    apply hless
    cases job with
    | some => exact le_rfl
    | none =>
      apply mayRoute_fanout_le
      rintro rfl
      have hleft := left_of_learns hslot learns (by simp) (by simp)
      exact hleft
  | snapshot _ job _ _ _ _ _ _ takes =>
    apply hless
    cases job with
    | some => exact le_rfl
    | none =>
      apply mayRoute_fanout_le
      rintro rfl
      have hleft := left_of_takes hslot takes
      exact Nat.le_trans (Nat.le_add_right _ _) hleft
  | finish item rest finished =>
    apply hless
    cases finished with
    | settled => exact le_rfl
    | routed => exact mayRoute_rest_le item _ rest
    | other => exact mayRoute_items_le item rest

/-- What was created and what may still be created never grows. -/
theorem routed_of_act (hslot : slot.id ≠ "") (hevent : slot.ofEvent = true) (hI : ReplaysSound db)
    (hP : PhaseSound db q) (honce : RoutesOnce eventID ⟨l, .act env, db, db'⟩)
    (hact : Act l q env db q' db') :
    routed eventID slot db' + mayRoute eventID slot q' ≤
      routed eventID slot db + mayRoute eventID slot q := by
  have hmay := mayRoute_of_act hslot honce hact
  unfold routed
  rcases taken_of_act "" eventID hslot hact with
    hsame | ⟨item, job, todo, todo', rest, req, rfl, rfl, takes, htaken⟩
  · omega
  · have hunclaimed : (if Unclaimed eventID db' then 1 else 0) ≤
        if Unclaimed eventID db then 1 else 0 := by
      have hkeep : Unclaimed eventID db' → Unclaimed eventID db := fun h ↦ h.of_act honce.leaseHeld hact
      by_cases h' : Unclaimed eventID db' <;> simp [h', hkeep]
    cases job with
    | some work =>
      -- deliveries of a replay have a job
      have htask : TaskSound db item (.fanout (some work) todo) := hP.task
      obtain ⟨j, hj, -, hid, -⟩ := hP.items item List.mem_cons_self htask.1
      have hnamed : req.replayJobID ≠ "" := by
        rw [takes.replayJobID, fanoutJob, ← hid]
        exact hI.named j hj
      rw [if_neg fun h ↦ hnamed h.1] at htaken
      omega
    | none =>
      have hreq : req.replayJobID = "" := takes.replayJobID
      have hof : slot.hit eventID req = true → item.resourceID = eventID := by
        cases takes with
        | target =>
          cases slot with
          | original => cases hevent
          | subscription | route =>
            intro hhit
            exact beq_iff_eq.mp (Bool.and_eq_true _ _ ▸ hhit).1
        | original _ _ _ _ _ isReplay | existing _ _ _ isReplay => cases isReplay
      by_cases hitem : item.resourceID = eventID
      · subst hitem
        have hleft : slot.left item.resourceID "" todo' +
            (if slot.hit item.resourceID req then 1 else 0) ≤ slot.left item.resourceID "" todo := by
          have htake := left_of_takes hslot takes
          exact htake
        simp only [mayRoute, if_true]
        by_cases hhit : slot.hit item.resourceID req = true
        · rw [if_pos ⟨hreq, hhit⟩] at htaken
          rw [if_pos hhit] at hleft
          omega
        · rw [if_neg fun h ↦ hhit h.2] at htaken
          omega
      · rw [if_neg fun h ↦ hitem (hof h.2)] at htaken
        simp only [mayRoute, if_neg hitem]
        omega

theorem budget_routed (hslot : slot.id ≠ "") (hevent : slot.ofEvent = true) :
    System.Budget machine (RoutesOnce eventID) ReplaysSound (fun db _ q ↦ PhaseSound db q)
      (routed eventID slot) (fun _ ↦ mayRoute eventID slot) :=
  budget_machine rfl (fun _ _ _ _ hsilent hP ↦ hP.silent hsilent) (fun _ _ h ↦ mayRoute_of_silent h)
    fun _ _ _ _ _ _ hI hP honce hact ↦ routed_of_act hslot hevent hI hP honce hact

/-! ## Runs -/

/-- A store in which the event has no deliveries, and without replays. -/
structure Unrouted (eventID : String) (db : DB) : Prop where
  noReplays : NoReplays db
  deliveries : ∀ d ∈ db.deliveries, d.eventID ≠ eventID

theorem routed_le_one (hrun : machine.Run (Unrouted eventID) events ts)
    (honce : ∀ e ∈ events, RoutesOnce eventID e) (hslot : slot.id ≠ "") (hevent : slot.ofEvent = true) :
    slot.taken "" eventID ts.state ≤ 1 := by
  have hinit (db : DB) (h : Unrouted eventID db) : ReplaysSound db ∧ routed eventID slot db ≤ 1 := by
    refine ⟨h.noReplays.sound, ?_⟩
    have htaken : slot.taken "" eventID db = 0 := by
      have hdeliveries (p : Delivery → Bool) :
          db.deliveries.rows.countP (fun d ↦ d.replayJobID == "" && (d.eventID == eventID && p d)) = 0 := by
        rw [List.countP_eq_zero]
        intro d hd hmatch
        simp only [Bool.and_eq_true, beq_iff_eq] at hmatch
        exact h.deliveries d hd hmatch.2.1
      cases slot with
      | original => cases hevent
      | subscription | route => exact hdeliveries _
    rw [routed, htaken]
    split <;> simp
  have htotal := (budget_routed hslot hevent).run
    (modular_sound.weaken fun _ _ ↦ trivial) hinit hrun honce
  have hspent := System.spent_le_total (routed eventID slot) (fun _ ↦ mayRoute eventID slot) ts
  unfold routed at hspent htotal
  omega

/-- In a run in which an event has one routing row at most and no lease on it has expired when a worker
claims: two deliveries of the event that belong to no replay never belong to the same subscription or
route. -/
theorem routed_at_most_once {c : Threads Op DB (Work Unit)}
    (hrun : App.system.Run (Unrouted eventID) events c) (honce : ∀ e ∈ events, RoutesOnce eventID e) :
    ∀ d₁ ∈ c.state.deliveries, ∀ d₂ ∈ c.state.deliveries, d₁.replayJobID = "" → d₂.replayJobID = "" →
      d₁.eventID = eventID → d₂.eventID = eventID →
      (d₁.subscriptionID ≠ "" → d₁.subscriptionID = d₂.subscriptionID → d₁ = d₂) ∧
        (d₁.routeID ≠ "" → d₁.routeID = d₂.routeID → d₁ = d₂) := by
  obtain ⟨_, hmachine, -⟩ := Machine.simulation.run hrun
  have hone (slot : Slot) (hslot : slot.id ≠ "") (hevent : slot.ofEvent = true) :
      slot.taken "" eventID c.state ≤ 1 := routed_le_one hmachine honce hslot hevent
  intro d₁ hd₁ d₂ hd₂ hjob₁ hjob₂ hevent₁ hevent₂
  refine ⟨fun hsubscription hsame ↦ ?_, fun hroute hsame ↦ ?_⟩
  · apply Table.eq_of_countP_le_one (hone (.subscription d₁.subscriptionID) hsubscription rfl) hd₁ hd₂
    · simp [hjob₁, hevent₁]
    · simp [hjob₂, hevent₂, hsame]
  · apply Table.eq_of_countP_le_one (hone (.route d₁.routeID) hroute rfl) hd₁ hd₂
    · simp [hjob₁, hevent₁]
    · simp [hjob₂, hevent₂, hsame]

/-! ### An event of the shop -/

/-- The shop with a row for its event. -/
def shopQueued : DB := committedState (enqueueRouteEvent "t" "evt_1" false (shopEnv 5) shopConfigured)

theorem unrouted_shopQueued : Unrouted "evt_1" shopQueued where
  noReplays := ⟨by decide +kernel, by decide +kernel, by decide +kernel, by decide +kernel⟩
  deliveries := by decide +kernel

def routedRun : AppRun := runScript routedScript shopQueued

/-- No lease has expired at the step. -/
def unexpired (e : Transition Op Env DB) : Bool :=
  match e.kind with
  | .act env => e.before.outbox.rows.all fun o ↦ ¬o.Expired env.now
  | _ => true

theorem leaseHeld_of_unexpired (h : unexpired e = true) : LeaseHeld eventID e := by
  intro codec registry workerID limit env items _ hkind _ o ho _
  rw [unexpired, hkind] at h
  exact of_decide_eq_true (List.all_eq_true.mp h o ho)

theorem shop_event_routed_once :
    (∀ e ∈ routedRun.1, RoutesOnce "evt_1" e) ∧
      routedRun.2.state.deliveries.rows.map (fun d ↦ (d.subscriptionID, d.routeID)) =
        [("sub_0", ""), ("", "rte_0")] ∧
      ∀ d₁ ∈ routedRun.2.state.deliveries, ∀ d₂ ∈ routedRun.2.state.deliveries, d₁.replayJobID = "" →
        d₂.replayJobID = "" → d₁.eventID = "evt_1" → d₂.eventID = "evt_1" → d₁.routeID ≠ "" →
        d₁.routeID = d₂.routeID → d₁ = d₂ := by
  have hrun : App.system.Run (Unrouted "evt_1") routedRun.1 routedRun.2 :=
    run_runScript unrouted_shopQueued
  have honce : ∀ e ∈ routedRun.1, RoutesOnce "evt_1" e := by
    have hrows : ∀ e ∈ routedRun.1, OneRow "evt_1" e.before ∧ unexpired e = true := by decide +kernel
    exact fun e he ↦ ⟨(hrows e he).1, leaseHeld_of_unexpired (hrows e he).2⟩
  refine ⟨honce, by decide +kernel, fun d₁ hd₁ d₂ hd₂ hjob₁ hjob₂ hevent₁ hevent₂ ↦ ?_⟩
  exact (routed_at_most_once hrun honce d₁ hd₁ d₂ hd₂ hjob₁ hjob₂ hevent₁ hevent₂).2

/-- The worker crashes when it has created the deliveries and before it completes the row. A second one
claims the row after the lease has expired. -/
def crashedRun : AppRun := runScript
  [.start (shopWorker "worker_1"), .go 0 8 (shopFrom 10),
    .crash 0, .start (shopWorker "worker_2"),
    .go 0 20 (fun n ↦ { shopFrom 30 n with now := 2 * leaseTime })] shopQueued

/-- The event has one row, and two deliveries each for the subscription and the route. -/
theorem crashed_fanout_repeats :
    App.system.Run (Unrouted "evt_1") crashedRun.1 crashedRun.2 ∧
      crashedRun.2.state.outbox.rows.map (fun o ↦ (o.kind, o.resourceID, o.state)) =
        [(.routeEvent, "evt_1", .completed)] ∧
      crashedRun.2.state.deliveries.rows.map
        (fun d ↦ (d.replayJobID, d.eventID, d.subscriptionID, d.routeID)) =
        [("", "evt_1", "sub_0", ""), ("", "evt_1", "", "rte_0"), ("", "evt_1", "sub_0", ""),
          ("", "evt_1", "", "rte_0")] :=
  ⟨run_runScript unrouted_shopQueued, by decide +kernel, by decide +kernel⟩

end Webhookery.Delivery
