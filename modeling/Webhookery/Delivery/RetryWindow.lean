import Webhookery.Delivery.Exclusive

/-!
# The time within which deliveries are retried

A retry policy has a longest duration, and a delivery should not be attempted again when that much time has
passed since its first attempt. The duration is read with the policy and then not used: what ends the
retries of a delivery is the number of its attempts alone. As long as every delay that a recording chooses
ends within the duration, the next attempt of every pending delivery does too.
-/

namespace Webhookery.Delivery

open Go Store App Relational Concurrency Provider Machine

variable {l : Op} {k k' : Courier} {env : Env} {db db' : DB} {now : Time} {d : Delivery} {crypto : Crypto}
  {policy : Retry.Policy} {item : DeliveryItem} {result : DeliveryResult}

/-! ## Windows -/

/-- When the first attempt of a delivery was recorded. -/
def firstAttemptAt (deliveryID : String) (db : DB) : Option Time :=
  (db.attempts.rows.find? (·.deliveryID == deliveryID)).map DeliveryAttempt.completedAt

/-- The first attempt of a delivery that is attempted now is an earlier one, or this one. -/
def windowStart (deliveryID : String) (now : Time) (db : DB) : Time :=
  (firstAttemptAt deliveryID db).getD (timestamptz now)

/-- The time after which a policy does not allow another attempt. -/
def windowEnd (policy : Retry.Policy) (item : DeliveryItem) (now : Time) (db : DB) : Time :=
  windowStart item.id now db + policy.maxDuration

/-- The time of the next attempt, if there is one. -/
def nextAttemptTime (crypto : Crypto) (policy : Retry.Policy) (item : DeliveryItem) (now : Time) : Time :=
  timestamptz (now + policy.nextDeterministicDelay crypto (item.attemptCount + 1) (item.seed crypto))

/-- What the policy asks of a recording: the delivery is not scheduled for later than its window, and a
retryable failure whose next attempt would be later dead-letters it. -/
def SchedulesWithin (crypto : Crypto) (policy : Retry.Policy) (item : DeliveryItem)
    (result : DeliveryResult) (now : Time) (db db' : DB) : Prop :=
  ∀ d ∈ db'.deliveries, d.id = item.id →
    (d.state = .scheduled → d.nextAttemptAt ≤ windowEnd policy item now db) ∧
    (attemptRetryable result = true →
      windowEnd policy item now db < nextAttemptTime crypto policy item now → d.state = .deadLettered)

/-- A failure that is worth a retry, with attempts left, finds the time of the next attempt within the
window. -/
def FitsWindow (crypto : Crypto) (policy : Retry.Policy) (item : DeliveryItem) (result : DeliveryResult)
    (now : Time) (db : DB) : Prop :=
  attemptRetryable result = true → (item.attemptCount + 1 : Int) < policy.maxAttempts →
    nextAttemptTime crypto policy item now ≤ windowEnd policy item now db

/-- A committed recording keeps the window of its delivery exactly when the delay fits. -/
theorem schedulesWithin_iff (hd : d ∈ db.deliveries) (hnames : ItemNames d item)
    (hpolicy : retryPolicyForDelivery item.tenantID item.retryPolicyID db = .ok policy)
    (hcommits : recordDeliveryAttempt crypto item result env db = .ok ((), db')) :
    SchedulesWithin crypto policy item result env.now db db' ↔
      FitsWindow crypto policy item result env.now db := by
  obtain ⟨policy', _, _, hpolicy', -, -, rfl⟩ := recordDeliveryAttempt_decides hcommits
  obtain rfl : policy = policy' := Except.ok.inj (hpolicy.symm.trans hpolicy')
  -- the delivery has one row, the one that the recording settles
  have hsettled {P : Delivery → Prop} :
      (∀ d' ∈ (settleDelivery crypto env.now item (attemptOutcome crypto policy item result) db).deliveries,
        d'.id = item.id → P d') ↔
      P (d.afterAttempt crypto env.now item (attemptOutcome crypto policy item result)) := by
    have hmem : d.afterAttempt crypto env.now item (attemptOutcome crypto policy item result) ∈
        (settleDelivery crypto env.now item (attemptOutcome crypto policy item result) db).deliveries :=
      List.mem_map.mpr ⟨d, hd, if_pos ⟨hnames.tenantID, hnames.id⟩⟩
    have hid := (d.afterAttempt_id crypto env.now item (attemptOutcome crypto policy item result)).trans
      hnames.id
    constructor
    · exact fun h ↦ h _ hmem hid
    · intro h d' hd' hsame
      obtain rfl := Table.eq_of_key_eq hd' hmem (hsame.trans hid.symm)
      exact h
  refine hsettled.trans ?_
  rw [FitsWindow]
  by_cases hretry : attemptRetryable result = true ∧ (item.attemptCount + 1 : Int) < policy.maxAttempts
  case pos =>
    have hfailure : result.failure = true := (Bool.and_eq_true_iff.mp hretry.1).1
    have houtcome : attemptOutcome crypto policy item result = .retry
        (policy.nextDeterministicDelay crypto (item.attemptCount + 1) (item.seed crypto)) := by
      rw [attemptOutcome, if_pos hfailure, if_pos hretry]
    rw [houtcome]
    constructor
    · exact fun h _ _ ↦ h.1 rfl
    · intro h
      have hfits := h hretry.1 hretry.2
      exact ⟨fun _ ↦ hfits, fun _ hlate ↦ absurd hlate (Int.not_lt.mpr hfits)⟩
  case neg =>
    refine iff_of_true ⟨fun hscheduled ↦ ?_, fun hretryable _ ↦ ?_⟩ fun hretryable hattempts ↦
      absurd ⟨hretryable, hattempts⟩ hretry
    · unfold attemptOutcome at hscheduled
      rw [if_neg hretry] at hscheduled
      split at hscheduled <;> cases hscheduled
    · have hfailure : result.failure = true := (Bool.and_eq_true_iff.mp hretryable).1
      rw [attemptOutcome, if_pos hfailure, if_neg hretry]
      rfl

/-! ## The policy of a delivery -/

/-- What recordings read from the row of a policy. -/
def policyOf (p : RetryPolicy) : Retry.Policy :=
  ⟨p.maxAttempts, wrapInt64 (p.maxDurationSeconds * second), wrapInt64 (p.initialDelaySeconds * second),
    wrapInt64 (p.maxDelaySeconds * second)⟩

/-- The policy that a delivery refers to, active or not: the default one, or a row. -/
inductive SelectedPolicy (db : DB) (d : Delivery) : Retry.Policy → Prop
  | standard (unset : d.retryPolicyID = "") : SelectedPolicy db d Retry.defaultPolicy
  | row (p : RetryPolicy) (mem : p ∈ db.retryPolicies) (set : d.retryPolicyID ≠ "")
      (tenantID : p.tenantID = d.tenantID) (id : p.id = d.retryPolicyID) : SelectedPolicy db d (policyOf p)

theorem selectedPolicy_of_recording (hnames : ItemNames d item)
    (hpolicy : retryPolicyForDelivery item.tenantID item.retryPolicyID db = .ok policy) :
    SelectedPolicy db d policy := by
  rw [← hnames.tenantID, ← hnames.retryPolicyID] at hpolicy
  unfold retryPolicyForDelivery at hpolicy
  split at hpolicy
  case isTrue hunset =>
    cases hpolicy
    exact .standard hunset
  case isFalse hset =>
    obtain ⟨p, hp, h⟩ := bind_eq_ok.mp hpolicy
    cases h
    obtain ⟨hmem, hmatch⟩ := mem_of_selectRow hp
    simp only [Bool.and_eq_true, beq_iff_eq] at hmatch
    exact .row p hmem hset hmatch.1.1 hmatch.1.2

/-- Only the state of the row of a policy changes. -/
theorem SelectedPolicy.keep (h : SelectedPolicy db d policy) (hkept : PoliciesKept db db')
    (hsame : SameSnapshot d d') : SelectedPolicy db' d' policy := by
  rw [hsame]
  cases h with
  | standard unset => exact .standard unset
  | row p mem set tenantID id =>
    obtain ⟨p', hp', hrow⟩ := hkept.kept p mem
    have hpolicy : policyOf p' = policyOf p := by rw [hrow]; rfl
    rw [← hpolicy]
    refine .row p' hp' set ?_ ?_
    · rw [hrow]
      exact tenantID
    · rw [hrow]
      exact id

theorem SelectedPolicy.unique (h : SelectedPolicy db d policy)
    (h' : SelectedPolicy db d policy') : policy = policy' := by
  cases h with
  | standard unset =>
    cases h' with
    | standard => rfl
    | row _ _ set => exact absurd unset set
  | row _ mem set _ id =>
    cases h' with
    | standard unset => exact absurd unset set
    | row _ mem' _ _ id' => rw [Table.eq_of_key_eq mem mem' (id.trans id'.symm)]

/-! ## Pending deliveries -/

/-- The next attempt of a pending delivery that was attempted is within the window of its policy. -/
def DueWithin (db : DB) (d : Delivery) : Prop :=
  isFinished d = false → ∀ start ∈ firstAttemptAt d.id db,
    ∃ policy, SelectedPolicy db d policy ∧ d.nextAttemptAt ≤ start + policy.maxDuration

/-- Attempts are those of deliveries, and these are due within their windows. -/
structure WindowsKept (db : DB) : Prop where
  named : ∀ a ∈ db.attempts, ∃ d ∈ db.deliveries, d.id = a.deliveryID
  due : ∀ d ∈ db.deliveries, DueWithin db d

theorem firstAttemptAt_append (deliveryID : String) (hrows : db'.attempts.rows = db.attempts.rows ++ [a]) :
    firstAttemptAt deliveryID db' =
      (firstAttemptAt deliveryID db).or (if a.deliveryID = deliveryID then some a.completedAt else none) := by
  unfold firstAttemptAt
  rw [hrows, List.find?_append]
  cases db.attempts.rows.find? (·.deliveryID == deliveryID) with
  | some => rfl
  | none => by_cases ha : a.deliveryID = deliveryID <;> simp [ha]

theorem firstAttemptAt_eq_none (h : ∀ a ∈ db.attempts, a.deliveryID ≠ deliveryID) :
    firstAttemptAt deliveryID db = none := by
  rw [firstAttemptAt, Option.map_eq_none_iff, List.find?_eq_none]
  intro a ha
  simpa using h a ha

theorem WindowsKept.of_map (h : WindowsKept db)
    (hrows : db'.deliveries.rows = db.deliveries.rows.map f) (hattempts : db'.attempts = db.attempts)
    (hpolicies : PoliciesKept db db') (hf : ∀ d, SameSnapshot d (f d))
    (hpending : ∀ d ∈ db.deliveries, isFinished (f d) = false →
      isFinished d = false ∧ (f d).nextAttemptAt = d.nextAttemptAt) : WindowsKept db' where
  named a ha := (DeliveriesKept.of_map hrows hf).exists_id (h.named a (hattempts ▸ ha))
  due := by
    intro d' hd' hunfinished start hstart
    obtain ⟨d, hd, rfl⟩ := (Table.mem_map hrows).mp hd'
    obtain ⟨hbefore, hnext⟩ := hpending d hd hunfinished
    have hid : (f d).id = d.id := by rw [hf d]
    have hstart' : start ∈ firstAttemptAt d.id db := by
      rw [hid, firstAttemptAt, hattempts] at hstart
      exact hstart
    obtain ⟨policy, hpolicy, hle⟩ := h.due d hd hbefore start hstart'
    exact ⟨policy, hpolicy.keep hpolicies (hf d), hnext ▸ hle⟩

theorem WindowsKept.of_eq (h : WindowsKept db) (hdeliveries : db'.deliveries = db.deliveries)
    (hattempts : db'.attempts = db.attempts) (hpolicies : PoliciesKept db db') : WindowsKept db' :=
  h.of_map (f := id) (by rw [hdeliveries, List.map_id]) hattempts hpolicies .refl
    fun _ _ hunfinished ↦ ⟨hunfinished, rfl⟩

/-- No attempt names a delivery that is new. -/
theorem WindowsKept.of_append (h : WindowsKept db)
    (hrows : db'.deliveries.rows = db.deliveries.rows ++ [row]) (hattempts : db'.attempts = db.attempts)
    (hpolicies : PoliciesKept db db') : WindowsKept db' := by
  constructor
  case named => exact fun a ha ↦ (DeliveriesKept.of_append hrows).exists_id (h.named a (hattempts ▸ ha))
  case due =>
    intro d hd hunfinished start hstart
    have hsame : firstAttemptAt d.id db' = firstAttemptAt d.id db := by rw [firstAttemptAt, hattempts]; rfl
    rw [hsame] at hstart
    have hmem : d ∈ db.deliveries.rows ++ [row] := hrows ▸ hd
    rcases List.mem_append.mp hmem with hmem | hnew
    · obtain ⟨policy, hpolicy, hle⟩ := h.due d hmem hunfinished start hstart
      exact ⟨policy, hpolicy.keep hpolicies (.refl d), hle⟩
    · have hnone : firstAttemptAt d.id db = none := by
        apply firstAttemptAt_eq_none
        intro a ha hid
        obtain ⟨_, hd₀, hid₀⟩ := h.named a ha
        have hsame := Table.eq_of_key_eq ((Table.mem_append hrows).mpr (.inl hd₀)) hd (hid₀.trans hid)
        exact Table.not_mem_of_rows_append hrows hnew (hsame ▸ hd₀)
      rw [hnone] at hstart
      cases hstart

/-- A recording whose delay fits keeps the windows. -/
theorem WindowsKept.of_record (h : WindowsKept db) (hitem : ∃ d ∈ db.deliveries, ItemNames d item)
    (hcommits : recordDeliveryAttempt crypto item result env db = .ok ((), db'))
    (hfits : ∀ policy, retryPolicyForDelivery item.tenantID item.retryPolicyID db = .ok policy →
      FitsWindow crypto policy item result env.now db) : WindowsKept db' := by
  obtain ⟨policy, _, _, hpolicy, hattempts, -, hdb⟩ := recordDeliveryAttempt_decides hcommits
  obtain ⟨d₀, hd₀, hnames⟩ := hitem
  have hwithin := (schedulesWithin_iff hd₀ hnames hpolicy hcommits).mpr (hfits policy hpolicy)
  have hkept := kept_of_record hcommits
  have hrows : db'.attempts.rows = db.attempts.rows ++
      [attemptRow crypto env item result (attemptOutcome crypto policy item result)] := by
    rw [hdb]
    exact hattempts
  constructor
  case named =>
    simp only [Table.mem_def, hrows]
    refine forall_mem_snoc.mpr ⟨fun a ha ↦ hkept.1.exists_id (h.named a ha), ?_⟩
    exact hkept.1.exists_id ⟨d₀, hd₀, hnames.id⟩
  case due =>
    intro d' hd' hunfinished start hstart
    rw [firstAttemptAt_append d'.id hrows] at hstart
    have hmem := hd'
    rw [hdb] at hmem
    obtain ⟨d, hd, rfl⟩ := List.mem_map.mp hmem
    by_cases hmatch : d.tenantID = item.tenantID ∧ d.id = item.id
    case pos =>
      rw [if_pos hmatch] at hd' hunfinished hstart ⊢
      have hid := (d.afterAttempt_id crypto env.now item (attemptOutcome crypto policy item result)).trans
        hmatch.2
      obtain rfl : d₀ = d := Table.eq_of_key_eq hd₀ hd (hnames.id.trans hmatch.2.symm)
      have hscheduled : (d₀.afterAttempt crypto env.now item
          (attemptOutcome crypto policy item result)).state = .scheduled := by
        cases houtcome : attemptOutcome crypto policy item result with
        | retry => rfl
        | succeeded | deadLettered =>
          rw [houtcome] at hunfinished
          cases hunfinished
      have hstart' : start = windowStart item.id env.now db := by
        have hrow : (attemptRow crypto env item result
            (attemptOutcome crypto policy item result)).deliveryID = item.id := rfl
        rw [hid, if_pos hrow] at hstart
        rw [windowStart]
        cases hfirst : firstAttemptAt item.id db with
        | none | some =>
          rw [hfirst] at hstart
          exact (Option.some.inj hstart).symm
      refine ⟨policy, ?_, ?_⟩
      · exact (selectedPolicy_of_recording hnames hpolicy).keep hkept.2
          (sameSnapshot_afterAttempt crypto env.now item _ d₀)
      · rw [hstart']
        exact (hwithin _ hd' hid).1 hscheduled
    case neg =>
      rw [if_neg hmatch] at hunfinished hstart ⊢
      have hother : item.id ≠ d.id := by
        intro hid
        obtain rfl : d₀ = d := Table.eq_of_key_eq hd₀ hd (hnames.id.trans hid)
        exact hmatch ⟨hnames.tenantID, hid.symm⟩
      have hrow : (attemptRow crypto env item result
          (attemptOutcome crypto policy item result)).deliveryID ≠ d.id := hother
      rw [if_neg hrow, Option.or_none] at hstart
      obtain ⟨policy', hpolicy', hle⟩ := h.due d hd hunfinished start hstart
      exact ⟨policy', hpolicy'.keep hkept.2 (.refl d), hle⟩

/-! ## Histories -/

/-- The attempt that a deed records, with the policy that decides about it. -/
structure Recording (deed : Deed Op Env DB Courier) (crypto : Crypto) (item : DeliveryItem)
    (result : DeliveryResult) (env : Env) (policy : Retry.Policy) : Prop where
  label : deed.label.crypto = some crypto
  control : ∃ hold rest, deed.control = .recording hold result rest ∧ hold.item = item
  kind : deed.kind = .act env
  policy : retryPolicyForDelivery item.tenantID item.retryPolicyID deed.before = .ok policy
  commits : recordDeliveryAttempt crypto item result env deed.before = .ok ((), deed.after)

/-- The deed retries nothing, and the delay that it chooses if it records an attempt fits. -/
structure KeepsWindow (deed : Deed Op Env DB Courier) : Prop where
  retries : retriedID deed.label = none
  fits : ∀ crypto item result env policy, Recording deed crypto item result env policy →
    FitsWindow crypto policy item result env.now deed.before

/-- A claim finishes nothing and leaves the times of the next attempts alone. -/
theorem WindowsKept.of_claim (h : WindowsKept db) (hcommits : claimDueDeliveries workerID limit env db = .ok (items, db')) :
    WindowsKept db' := by
  obtain ⟨_, -, hclaimed⟩ := bind_eq_ok.mp hcommits
  cases hclaimed
  refine h.of_map rfl rfl (.of_eq rfl) (sameSnapshot_claimUpdate workerID env.now _)
    fun d hd hunfinished ↦ ⟨?_, ?_⟩
  · cases hfinished : isFinished d with
    | false => rfl
    | true =>
      rw [claimUpdate_of_finished hd hfinished] at hunfinished
      exact absurd (hfinished.symm.trans hunfinished) (by decide)
  · unfold deliveryClaimUpdate Delivery.released Delivery.claimedBy
    split <;> split <;> rfl

theorem WindowsKept.step (hkeeps : KeepsWindow deed)
    (hkind : deed.kind = .act env) (hnamed : HoldsNamed deed.before deed.control)
    (hstep : CourierStep deed.label deed.control env deed.before k' deed.after)
    (h : WindowsKept deed.before) : WindowsKept deed.after := by
  cases hstep with
  | elsewhere _ _ _ _ hl rows =>
    cases rows with
    | retried _ _ label =>
      have hretries := hkeeps.retries
      rw [label] at hretries
      cases hretries
    | created _ _ _ rows attempts _ policies => exact h.of_append rows attempts policies
    | carried _ carries =>
      refine h.of_map carries.rows carries.attempts carries.policies carries.same fun d _ hunfinished ↦ ?_
      rcases carries.canceled hl d with hf | hf <;> rw [hf] at hunfinished ⊢
      · exact ⟨hunfinished, rfl⟩
      · cases hunfinished
  | claimed _ _ _ _ _ commits => exact h.of_claim commits
  | unclaimed _ _ _ state | unrecorded _ _ _ _ _ _ _ _ state =>
    exact state ▸ h
  | sent _ _ _ _ _ state =>
    rw [state]
    split
    · exact h.of_eq rfl rfl (.of_eq rfl)
    · exact h
  | recorded crypto hold result rest label before _ commits =>
    rw [before] at hnamed
    refine h.of_record (hnamed hold List.mem_cons_self) commits fun policy hpolicy ↦ ?_
    exact hkeeps.fits crypto hold.item result env policy
      ⟨label, ⟨hold, rest, before, rfl⟩, hkind, hpolicy, commits⟩

theorem Unattempted.windowsKept (h : Unattempted db) : WindowsKept db where
  named a ha := absurd ha (Table.not_mem_of_rows_eq_nil h.attempts)
  due d _ _ start hstart := by
    rw [firstAttemptAt_eq_none fun a ha ↦ absurd ha (Table.not_mem_of_rows_eq_nil h.attempts)] at hstart
    cases hstart

/-- In every history, a recording keeps the window of its policy exactly when the delay that it chooses
fits; and in a history without retries of an operator in which all delays fit, the next attempt of every
pending delivery is within the window that its first attempt opened. -/
theorem retries_within_window_iff {deeds : List (Deed Op Env DB Courier)} {c : Threads Op DB Courier}
    (hhistory : couriers.system.History Unattempted deeds c) :
    (∀ deed ∈ deeds, ∀ crypto item result env policy, Recording deed crypto item result env policy →
      (SchedulesWithin crypto policy item result env.now deed.before deed.after ↔
        FitsWindow crypto policy item result env.now deed.before)) ∧
    ((∀ deed ∈ deeds, KeepsWindow deed) → ∀ d ∈ c.state.deliveries, DueWithin c.state d) := by
  constructor
  · intro deed hdeed crypto item result env policy hrecording
    obtain ⟨-, -, hnamed⟩ := preserved_holds.actor (fun _ _ ↦ trivial) hhistory (fun _ _ ↦ trivial) hdeed
      hrecording.kind
    obtain ⟨hold, _, hcontrol, rfl⟩ := hrecording.control
    rw [hcontrol] at hnamed
    obtain ⟨_, hd, hnames⟩ := hnamed hold List.mem_cons_self
    exact schedulesWithin_iff hd hnames hrecording.policy hrecording.commits
  · intro hkeeps
    have hpreserved : System.Preserved couriers.system KeepsWindow WindowsKept
        fun db l k ↦ k.Fits l ∧ HoldsNamed db k :=
      preserved_couriers fun _ _ _ hkeeps hkind hnamed hstep h ↦ h.step hkeeps hkind hnamed hstep
    exact (hpreserved.history (fun _ h ↦ h.windowsKept) hhistory hkeeps).state.due

/-! ### Busy endpoints of the shop -/

/-- The delay that the deed chooses fits. -/
def delayFits (deed : Deed Op Env DB Courier) : Bool :=
  match deed.label.crypto, deed.control, deed.kind with
  | some crypto, .recording hold result _, .act env =>
    match retryPolicyForDelivery hold.item.tenantID hold.item.retryPolicyID deed.before with
    | .ok policy => !attemptRetryable result || decide (policy.maxAttempts ≤ hold.item.attemptCount + 1) ||
      decide (nextAttemptTime crypto policy hold.item env.now ≤
        windowEnd policy hold.item env.now deed.before)
    | .error _ => true
  | _, _, _ => true

theorem fitsWindow_of_delayFits (h : delayFits deed = true)
    (hrecording : Recording deed crypto item result env policy) :
    FitsWindow crypto policy item result env.now deed.before := by
  intro hretryable hattempts
  obtain ⟨_, _, hcontrol, rfl⟩ := hrecording.control
  unfold delayFits at h
  rw [hrecording.label, hcontrol, hrecording.kind] at h
  simp only [hrecording.policy, hretryable, Bool.not_true, Bool.false_or, Bool.or_eq_true,
    decide_eq_true_eq] at h
  exact h.resolve_left (Int.not_le.mpr hattempts)

/-- The endpoint is busy when a worker attempts the first delivery. -/
def busyRun : CourierRun := runCouriers
  (routedScript ++ [.start (.runDeliveries .standard busyClient "worker" 1), .go 1 20 (shopFrom 40)]) shopSigning

theorem busy_delivery_due_within :
    (∀ deed ∈ busyRun.1, KeepsWindow deed) ∧
      busyRun.2.state.deliveries.rows.map (fun d ↦ (d.id, d.state, firstAttemptAt d.id busyRun.2.state)) =
        [("del_15", .scheduled, some 0), ("del_17", .scheduled, none)] ∧
      ∀ d ∈ busyRun.2.state.deliveries, DueWithin busyRun.2.state d := by
  have hhistory : couriers.system.History Unattempted busyRun.1 busyRun.2 :=
    history_runCouriers unattempted_shopSigning
  have hretries : ∀ deed ∈ busyRun.1, (retriedID deed.label).isNone = true := by decide +kernel
  have hdelays : ∀ deed ∈ busyRun.1, delayFits deed = true := by decide +kernel
  have hkeeps : ∀ deed ∈ busyRun.1, KeepsWindow deed := fun deed hdeed ↦
    ⟨Option.isNone_iff_eq_none.mp (hretries deed hdeed),
      fun _ _ _ _ _ ↦ fitsWindow_of_delayFits (hdelays deed hdeed)⟩
  exact ⟨hkeeps, by decide +kernel, (retries_within_window_iff hhistory).2 hkeeps⟩

/-- Twelve attempts within one second. -/
def hastyPolicy : CreateRetryPolicyRequest := ⟨"hasty", 12, 1, 3600, 86400, 0, "active"⟩

/-- The policy is created and given to the endpoint, the event is routed, and the endpoint is busy when a
worker attempts the first delivery. -/
def hastyRun : CourierRun := runCouriers
  [.start (.createRetryPolicy "t" "operator" hastyPolicy), .go 0 1 (fun _ ↦ shopEnv 1),
    .start (.updateEndpoint some "t" "ep_1" ⟨none, none, none, some "rtp_1", "retry less"⟩),
    .go 1 1 (fun _ ↦ shopEnv 2),
    .start (.runOutbox { shopCodec with crypto := .standard } (fun _ _ ↦ none) "worker" 10),
    .go 2 20 (shopFrom 10),
    .start (.runDeliveries .standard busyClient "worker" 1), .go 3 20 (shopFrom 40)] shopSigning

/-- The policy is accepted, nobody retries the delivery, and its second attempt is due more than an hour
after the first one. -/
theorem hasty_delivery_due_late :
    validateRetryPolicy hastyPolicy = .ok () ∧
      couriers.system.History Unattempted hastyRun.1 hastyRun.2 ∧
      (∀ deed ∈ hastyRun.1, (retriedID deed.label).isNone = true) ∧
      hastyRun.2.state.retryPolicies.rows.map (fun p ↦ (p.id, p.maxDurationSeconds)) = [("rtp_1", 1)] ∧
      hastyRun.2.state.attempts.rows.map (fun a ↦ (a.deliveryID, a.retryable, a.completedAt)) =
        [("del_15", true, 0)] ∧
      hastyRun.2.state.deliveries.rows.map (fun d ↦ (d.id, d.retryPolicyID, d.state, d.nextAttemptAt)) =
        [("del_15", "rtp_1", .scheduled, 5149980377000), ("del_17", "rtp_1", .scheduled, 0)] ∧
      60 * minute < (5149980377000 : Time) :=
  ⟨rfl, history_runCouriers unattempted_shopSigning, by decide +kernel,
    by decide +kernel, by decide +kernel, by decide +kernel, by decide⟩

end Webhookery.Delivery
