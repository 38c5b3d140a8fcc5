import Webhookery.Delivery.SendAccount

/-!
# How often a delivery is sent

A policy limits the attempts of a delivery, and a worker that crashes or loses its lease between a claim
and its recording may have sent the delivery once more. The count of attempts only moves when an attempt is
recorded, though, and a recording fails when the policy of the delivery was disabled meanwhile. Nothing
then stops the delivery from being claimed and sent again whenever its lease is over.
-/

namespace Webhookery.Delivery

open Go Store App Relational Concurrency Provider Machine

variable {env : Env} {db : DB} {d : Delivery} {crypto : Crypto} {policy : Retry.Policy}
  {item : DeliveryItem} {result : DeliveryResult} {deliveryID : String} {M : Int} {now : Time}

/-! ## Histories -/

section Histories

variable {Init : DB → Prop} {deeds : List (Deed Op Env DB Courier)} {c c' : Threads Op DB Courier}
  {deed : Deed Op Env DB Courier}

theorem interruptions_snoc (deliveryID : String) (deeds : List (Deed Op Env DB Courier))
    (deed : Deed Op Env DB Courier) :
    interruptions deliveryID (deeds ++ [deed]) =
      interruptions deliveryID deeds + (interrupts deliveryID deed).toNat := by
  rw [interruptions, List.countP_append, List.countP_singleton, interruptions]
  cases interrupts deliveryID deed <;> rfl

theorem accounted_of_history (hhistory : couriers.system.History Init deeds c)
    (hinit : ∀ db, Init db → db.sent = [] ∧ ∀ d ∈ db.deliveries, d.attemptCount = 0) (hpositive : 0 < M)
    (hkeeps : ∀ deed ∈ deeds, KeepsAccount deliveryID deed)
    (hallows : ∀ deed ∈ deeds, AllowsAttempts deliveryID M deed) :
    Accounted deliveryID M (interruptions deliveryID deeds) c.state c.threads := by
  induction hhistory with
  | nil db init =>
    obtain ⟨hsent, hcount⟩ := hinit db init
    refine ⟨fun request hrequest _ ↦ ?_, fun d hd _ ↦ ?_⟩
    · exact absurd (hsent ▸ hrequest) List.not_mem_nil
    · have hspent : sends deliveryID db + unsent deliveryID [] = 0 := by
        rw [sends, hsent]
        rfl
      rw [hspent]
      cases hfinished : isFinished d with
      | true => exact .finished hfinished (by omega)
      | false => exact .waiting hfinished (by rw [hcount d hd]; exact hpositive) (Nat.zero_le _)
  | @snoc _ _ _ deed history does ih =>
    obtain ⟨hkeeps, hkeep⟩ := forall_mem_snoc.mp hkeeps
    obtain ⟨hallows, hallow⟩ := forall_mem_snoc.mp hallows
    have hbefore := ih hkeeps hallows
    rw [interruptions_snoc]
    cases does.done with
    | start enters kind threads state =>
      have hnone : interrupts deliveryID deed = false := by rw [interrupts, kind]
      have hholds : deed.control.unsent = [] := by
        rw [enters]
        change (if deed.label.delivers then Courier.claiming else .other deed.label.program).unsent = []
        split <;> rfl
      rw [hnone, state]
      refine Accounted.perm ?_ threads.symm
      refine ⟨hbefore.named, fun d hd hid ↦ (hbefore.covered d hd hid).change ?_
        fun held ↦ held.mono fun t ht ↦ List.mem_cons_of_mem _ ht⟩
      rw [unsent_cons, hholds, holdCount, List.countP_nil, Nat.zero_add]
      exact le_rfl
    | act _ _ kind moves before after =>
      have hholds (t) (ht : t ∈ (deed.label, deed.control) :: deed.others) :=
        holds_of_history history t (before.mem_iff.mpr ht)
      have hstep := (courierStep_of_next (hholds _ List.mem_cons_self).1 moves).1
      rw [← does.before_eq, ← does.after_eq] at hstep
      rw [← does.before_eq] at hbefore hholds
      rw [← does.after_eq]
      refine Accounted.perm ?_ after.symm
      exact accounted_of_step (hbefore.perm before) (fun t ht ↦ (hholds t ht).2) hpositive kind hstep
        hkeep hallow
    | crash kind before after state =>
      rw [state, after, interrupts, kind]
      exact accounted_of_crash (hbefore.perm before)

/-- The policy by which an attempt was recorded stays the one that its delivery refers to. -/
theorem exists_selectedPolicy (hhistory : couriers.system.History Init deeds c) (hdeed : deed ∈ deeds)
    (hrecording : Recording deed crypto item result env policy) :
    ∃ d ∈ c.state.deliveries, d.id = item.id ∧ SelectedPolicy c.state d policy := by
  induction hhistory with
  | nil => cases hdeed
  | @snoc _ c c' _ history does ih =>
    have hkept : DeliveriesKept c.state c'.state ∧ PoliciesKept c.state c'.state := by
      cases does.done with
      | start _ _ _ state | crash _ _ _ state =>
        exact state ▸ ⟨.of_eq rfl, .of_eq rfl⟩
      | act _ _ _ moves before =>
        have hfits := (holds_of_history history _ (before.mem_iff.mpr List.mem_cons_self)).1
        exact (courierStep_of_next hfits moves).1.kept
    have hbefore : ∃ d ∈ c.state.deliveries, d.id = item.id ∧ SelectedPolicy c.state d policy := by
      rcases List.mem_append.mp hdeed with hearlier | hlast
      · exact ih hearlier
      · obtain rfl := List.mem_singleton.mp hlast
        obtain ⟨hold, _, hcontrol, rfl⟩ := hrecording.control
        have hactor : (deed.label, deed.control) ∈ c.threads := by
          cases does.done with
          | start _ kind | crash kind => cases hrecording.kind.symm.trans kind
          | act _ _ _ _ before => exact before.mem_iff.mpr List.mem_cons_self
        have hnamed := (holds_of_history history _ hactor).2
        rw [hcontrol] at hnamed
        obtain ⟨d, hd, hnames⟩ := hnamed hold List.mem_cons_self
        have hpolicy := hrecording.policy
        rw [does.before_eq] at hpolicy
        exact ⟨d, hd, hnames.id, selectedPolicy_of_recording hnames hpolicy⟩
    obtain ⟨d, hd, hid, hselected⟩ := hbefore
    obtain ⟨d', hd', hsame⟩ := hkept.1 d hd
    exact ⟨d', hd', by rw [hsame]; exact hid, hselected.keep hkept.2 hsame⟩

/-- A store in which nothing was attempted or sent, with policies within their limits. -/
structure NothingSent (db : DB) : Prop extends Unattempted db where
  sent : db.sent = []
  limited : ∀ p ∈ db.retryPolicies, p.Limited

theorem limited_of_history (hhistory : couriers.system.History NothingSent deeds c) :
    ∀ p ∈ c.state.retryPolicies, p.Limited := by
  have hpreserved : System.Preserved couriers.system (fun _ ↦ True)
      (fun db ↦ ∀ p ∈ db.retryPolicies, p.Limited) fun db l k ↦ k.Fits l ∧ HoldsNamed db k :=
    preserved_couriers fun _ _ _ _ _ _ hstep hlimited ↦ hstep.kept.2.limited hlimited
  exact (hpreserved.history (fun _ h ↦ h.limited) hhistory fun _ _ ↦ trivial).state

theorem SelectedPolicy.positive (h : SelectedPolicy db d policy)
    (hlimited : ∀ p ∈ db.retryPolicies, p.Limited) : 0 < policy.maxAttempts := by
  cases h with
  | standard => decide
  | row p mem => exact Int.lt_of_lt_of_le Int.zero_lt_one (hlimited p mem).maxAttempts.1

/-- In every history in which nobody retries the delivery, its recordings can commit and those that ask
for another attempt are not outdated: the delivery is sent at most as often as its policy allows attempts,
and once more for each crash and each expired lease between a claim and its recording. -/
theorem sends_bounded (hhistory : couriers.system.History NothingSent deeds c)
    (hkeeps : ∀ deed ∈ deeds, KeepsAccount deliveryID deed) (hd : d ∈ c.state.deliveries)
    (hid : d.id = deliveryID) (hpolicy : SelectedPolicy c.state d policy) :
    (sends deliveryID c.state : Int) ≤ policy.maxAttempts + interruptions deliveryID deeds := by
  have hallows : ∀ deed ∈ deeds, AllowsAttempts deliveryID policy.maxAttempts deed := by
    intro deed hdeed crypto item result env policy' hrecording hitem
    obtain ⟨d', hd', hid', hselected⟩ := exists_selectedPolicy hhistory hdeed hrecording
    obtain rfl : d' = d := Table.eq_of_key_eq hd' hd (hid'.trans (hitem.trans hid.symm))
    rw [hselected.unique hpolicy]
  have haccounted := accounted_of_history hhistory (fun _ h ↦ ⟨h.sent, h.deliveries⟩)
    (hpolicy.positive (limited_of_history hhistory)) hkeeps hallows
  have hbound := (haccounted.covered d hd hid).bound
  omega

end Histories

/-! ### A worker of the shop that crashes -/

instance (item : DeliveryItem) (result : DeliveryResult) (env : Env) (db : DB) :
    Decidable (Recordable item result env db) :=
  decidable_of_iff' _ (recordable_iff item result env db)

/-- The deed keeps the account of the delivery. -/
def keepsAccount (deliveryID : String) (deed : Deed Op Env DB Courier) : Bool :=
  retriedID deed.label != some deliveryID &&
    match deed.control, deed.kind with
    | .recording hold result _, .act env =>
      hold.item.id != deliveryID || decide (Recordable hold.item result env deed.before) &&
        deed.before.deliveries.rows.all fun d ↦ d.id != deliveryID || !attemptRetryable result ||
          !isFinished d && decide (d.attemptCount ≤ hold.item.attemptCount)
    | _, _ => true

theorem keepsAccount_of_check (h : keepsAccount deliveryID deed = true) : KeepsAccount deliveryID deed := by
  obtain ⟨hretries, hrest⟩ := Bool.and_eq_true_iff.mp h
  have hrecording {hold : Hold} {result : DeliveryResult} {rest : List Hold} {env : Env}
      (hcontrol : deed.control = .recording hold result rest) (hkind : deed.kind = .act env)
      (hid : hold.item.id = deliveryID) : Recordable hold.item result env deed.before ∧
        ∀ d ∈ deed.before.deliveries, d.id = deliveryID → attemptRetryable result = true →
          isFinished d = false ∧ d.attemptCount ≤ hold.item.attemptCount := by
    rw [hcontrol, hkind] at hrest
    simp only [hid, bne_self_eq_false, Bool.false_or, Bool.and_eq_true, decide_eq_true_eq,
      List.all_eq_true] at hrest
    refine ⟨hrest.1, fun d hd hsame hretryable ↦ ?_⟩
    have hrow := hrest.2 d hd
    simp only [hsame, hretryable, bne_self_eq_false, Bool.not_true, Bool.false_or, Bool.and_eq_true,
      Bool.not_eq_true', decide_eq_true_eq] at hrow
    exact hrow
  constructor
  case retries => simpa using hretries
  case recordable => exact fun _ _ _ _ hcontrol hkind hid ↦ (hrecording hcontrol hkind hid).1
  case current =>
    exact fun _ _ _ _ hcontrol hkind hid hretryable d hd hsame ↦
      (hrecording hcontrol hkind hid).2 d hd hsame hretryable

/-- A worker sends the first delivery and crashes before it records the attempt. Another one delivers it
when the lease is over. -/
def resentRun : CourierRun := runCouriers
  (routedScript ++ [.start (.runDeliveries checksum shopClient "worker_1" 1), .go 1 2 (shopFrom 30), .crash 1,
    .start (.runDeliveries checksum shopClient "worker_2" 1),
    .go 1 10 (fun n ↦ { shopFrom 50 n with now := 2 * minute })]) shopSigning

theorem nothingSent_shopSigning : NothingSent shopSigning where
  toUnattempted := unattempted_shopSigning
  sent := rfl
  limited _ hp := absurd hp (Table.not_mem_of_rows_eq_nil rfl)

theorem crashed_delivery_sent_twice :
    sends "del_15" resentRun.2.state = 2 ∧ interruptions "del_15" resentRun.1 = 1 ∧
      (2 : Int) ≤ Retry.defaultPolicy.maxAttempts + 1 := by
  have hhistory : couriers.system.History NothingSent resentRun.1 resentRun.2 :=
    history_runCouriers nothingSent_shopSigning
  have hsends : sends "del_15" resentRun.2.state = 2 := by decide +kernel
  have hinterruptions : interruptions "del_15" resentRun.1 = 1 := by decide +kernel
  obtain ⟨_, hd, hid, hpolicy⟩ : ∃ d ∈ resentRun.2.state.deliveries, d.id = "del_15" ∧ d.retryPolicyID = "" := by
    decide +kernel
  have hcheck : ∀ deed ∈ resentRun.1, keepsAccount "del_15" deed = true := by decide +kernel
  have hbound := sends_bounded hhistory (fun deed hdeed ↦ keepsAccount_of_check (hcheck deed hdeed)) hd
    hid (.standard hpolicy)
  rw [hsends, hinterruptions] at hbound
  exact ⟨hsends, hinterruptions, hbound⟩

/-! ### A delivery of the shop whose policy is disabled -/

/-- One attempt within a minute. -/
def oncePolicy : RetryPolicy := ⟨"rtp_1", "t", "once", 1, .active, 1, 60, 1, 1, 0, "operator"⟩

def onceDelivery : Delivery :=
  ⟨"del_1", "t", "evt_1", "ep_1", "", "", "", "", "rtp_1", "", "", "", "", "", "", .scheduled, 0, 0, none,
    none, 0⟩

/-- The shop with a pending delivery. -/
def onceDB : DB :=
  { shopSigning with
    retryPolicies := (Table.empty.insert? oncePolicy).getD .empty
    deliveries := (Table.empty.insert? onceDelivery).getD .empty }

/-- An operator deletes the policy of the delivery. -/
def disabledRun : CourierRun := runCouriers
  [.start (.deleteRetryPolicy "t" "rtp_1" "not used any more"), .go 0 1 (fun _ ↦ shopEnv 1)] onceDB

/-- The delivery is due again, and its policy is disabled. -/
structure Stuck (now : Time) (db : DB) : Prop where
  delivery : ∃ d, db.deliveries.rows = [d] ∧ SameSnapshot onceDelivery d ∧ d.nextAttemptAt ≤ now ∧
    (d.released now).state = .scheduled
  rest : db = { disabledRun.2.state with deliveries := db.deliveries, sent := db.sent }

theorem stuck_disabledRun : Stuck 0 disabledRun.2.state where
  delivery := ⟨onceDelivery, by with_unfolding_all rfl, .refl _, le_rfl, rfl⟩
  rest := rfl

theorem Stuck.withSent (h : Stuck now db) (sent : List SentRequest) : Stuck now { db with sent } where
  delivery := h.delivery
  rest := congrArg (fun db : DB ↦ { db with sent }) h.rest

theorem available_of_stuck (hbox : ∀ tenantID purpose ciphertext, Decrypts env tenantID purpose ciphertext)
    (h : Stuck now db) (hsame : SameSnapshot onceDelivery d) : Available env db d := by
  obtain ⟨e, he, htenant, hid, hmtls, hkey⟩ : ∃ e ∈ disabledRun.2.state.endpoints, e.tenantID = "t" ∧
      e.id = "ep_1" ∧ e.mtlsEnabled = false ∧ (signingKey disabledRun.2.state e).isSome = true := by decide +kernel
  obtain ⟨key, hkey⟩ := Option.isSome_iff_exists.mp hkey
  have hevent : ∃ e ∈ disabledRun.2.state.events, e.tenantID = "t" ∧ e.id = "evt_1" := by decide +kernel
  rw [h.rest, hsame]
  refine ⟨⟨e, he, htenant, hid, ⟨key, hkey, hbox _ _ _⟩, fun henabled ↦ ?_⟩, hevent⟩
  exact absurd (henabled.symm.trans hmtls) (by decide)

/-- The delivery is the one that a claim takes. -/
theorem selected_of_stuck (h : Stuck now db) (hrows : db.deliveries.rows = [d])
    (hsame : SameSnapshot onceDelivery (d.released now)) (hdue : (d.released now).nextAttemptAt ≤ now)
    (hscheduled : (d.released now).state = .scheduled) :
    selectedDeliveries now 1 db = [d.released now] := by
  obtain ⟨e, he, htenant, hid, hactive, hnone⟩ : ∃ e ∈ disabledRun.2.state.endpoints, e.tenantID = "t" ∧ e.id = "ep_1" ∧
      e.state = .active ∧ e.disabledUntil.isNone = true := by decide +kernel
  have htakes : (db.endpoints.rows.any fun e ↦ e.tenantID == (d.released now).tenantID &&
      e.id == (d.released now).endpointID && e.state == .active && e.disabledUntil.all (· ≤ now)) = true := by
    rw [h.rest, hsame]
    refine List.any_eq_true.mpr ⟨e, he, ?_⟩
    rw [htenant, hid, hactive, Option.isNone_iff_eq_none.mp hnone]
    rfl
  have hselected : (d.released now).due db now = true := by
    rw [Delivery.due, htakes, hscheduled, decide_eq_true hdue]
    rfl
  rw [selectedDeliveries, hrows, List.map_singleton, claimedDeliveries]
  simp only [List.filter_cons_of_pos hselected, List.filter_nil, List.insertionSort_cons,
    List.insertionSort_nil, List.orderedInsert_nil, List.take_succ_cons, List.take_nil]

theorem stuck_of_claim (h : Stuck env.now db)
    (hclaim : ClaimTakes "worker" env.now [item] db db') (hid : item.id = "del_1") :
    Stuck (env.now + 2 * minute) db' := by
  obtain ⟨d, hrows, hsame, hdue, -⟩ := h.delivery
  have hd : d.id = item.id := by
    rw [hid, hsame]
    rfl
  have hlease (n : Int) : n / 1000 * 1000 + 60000000000 ≤ n + 2 * 60000000000 := by omega
  constructor
  case delivery =>
    refine ⟨(d.released env.now).claimedBy "worker" env.now, ?_, ?_, ?_, ?_⟩
    · rw [hclaim.rows, hrows, List.map_singleton, if_pos (by simp [hd])]
    · unfold Delivery.released Delivery.claimedBy
      split <;> rw [hsame] <;> rfl
    · have hnext : ((d.released env.now).claimedBy "worker" env.now).nextAttemptAt = d.nextAttemptAt := by
        unfold Delivery.released Delivery.claimedBy
        split <;> rfl
      rw [hnext]
      exact hdue.trans (Int.le_add_of_nonneg_right (by decide))
    · have hexpired : ((d.released env.now).claimedBy "worker" env.now).state = .inProgress ∧
          ((d.released env.now).claimedBy "worker" env.now).lockExpiresAt.any
            (· ≤ env.now + 2 * minute) = true :=
        ⟨rfl, decide_eq_true (hlease env.now)⟩
      rw [Delivery.released, if_pos hexpired]
  case rest =>
    have hframe := hclaim.frame
    rw [h.rest] at hframe
    rw [hframe]

/-- A worker claims the delivery, which will be due again when the lease is over. -/
theorem claim_of_stuck (hbox : ∀ tenantID purpose ciphertext, Decrypts env tenantID purpose ciphertext)
    (h : Stuck env.now db) :
    ∃ item db', claimDueDeliveries "worker" 1 env db = .ok ([item], db') ∧ item.id = "del_1" ∧
      item.tenantID = "t" ∧ item.retryPolicyID = "rtp_1" ∧ db'.sent = db.sent ∧
      Stuck (env.now + 2 * minute) db' := by
  obtain ⟨d, hrows, hsame, hdue, hscheduled⟩ := h.delivery
  have hreleased : SameSnapshot onceDelivery (d.released env.now) ∧
      (d.released env.now).nextAttemptAt = d.nextAttemptAt := by
    unfold Delivery.released
    split
    · exact ⟨by rw [hsame]; rfl, rfl⟩
    · exact ⟨hsame, rfl⟩
  have hselected := selected_of_stuck h hrows hreleased.1 (hreleased.2 ▸ hdue) hscheduled
  obtain ⟨item, hitem⟩ := exists_populateDeliveryItem_iff.mpr (available_of_stuck hbox h hreleased.1)
  have hsnapshot := snapshot_of_populate hitem
  have hpopulate : (selectedDeliveries env.now 1 db).mapM (populateDeliveryItem env db) = .ok [item] := by
    rw [hselected, List.mapM_cons, hitem]
    rfl
  have hid : item.id = "del_1" := by
    rw [hsnapshot.id, hreleased.1]
    rfl
  have hcommits : claimDueDeliveries "worker" 1 env db = .ok ([item], updateDeliveries
      (deliveryClaimUpdate "worker" env.now ((selectedDeliveries env.now 1 db).map Delivery.id))
      (deliveryClaimUpdate_id "worker" env.now _) db) :=
    bind_eq_ok.mpr ⟨[item], hpopulate, rfl⟩
  refine ⟨item, _, hcommits, hid, ?_, ?_, rfl, stuck_of_claim h (claimTakes_of_commit hcommits) hid⟩
  · rw [hsnapshot.tenantID, hreleased.1]
    rfl
  · rw [hsnapshot.retryPolicyID, hreleased.1]
    rfl

/-- The recording fails, whatever the endpoint answered. -/
theorem record_of_stuck (h : Stuck now db) (htenant : item.tenantID = "t")
    (hpolicy : item.retryPolicyID = "rtp_1") :
    recordDeliveryAttempt crypto item result env db = .error .notFound := by
  have hnone : retryPolicyForDelivery "t" "rtp_1" disabledRun.2.state = .error .notFound := by
    with_unfolding_all rfl
  have hsame : retryPolicyForDelivery item.tenantID item.retryPolicyID db = .error .notFound := by
    rw [htenant, hpolicy, h.rest]
    exact hnone
  rw [recordDeliveryAttempt, hsame]
  rfl

/-- A history up to some time in which nobody retries a delivery, no worker crashes and no lease expires
between a claim and its recording. -/
structure Quiet (now : Time) (deeds : List (Deed Op Env DB Courier)) (c : Threads Op DB Courier) : Prop where
  history : couriers.system.History NothingSent deeds c
  calm : ∀ deed ∈ deeds, retriedID deed.label = none ∧ deed.kind ≠ .crash ∧
    interrupts "del_1" deed = false
  past : ∀ deed ∈ deeds, ∀ t ∈ clock deed.transition, t ≤ now
  forward : ClockForward (deeds.map Deed.transition)

section Rounds

variable {now : Time} {deeds : List (Deed Op Env DB Courier)} {deed : Deed Op Env DB Courier}
  {c c' : Threads Op DB Courier}

theorem Quiet.snoc (h : Quiet now deeds c) (hdoes : couriers.system.Does c deed c')
    (hcalm : retriedID deed.label = none ∧ deed.kind ≠ .crash ∧ interrupts "del_1" deed = false)
    (hclock : ∀ t ∈ clock deed.transition, t = now) : Quiet now (deeds ++ [deed]) c' := by
  constructor
  case history => exact h.history.snoc hdoes
  case calm => exact forall_mem_snoc.mpr ⟨h.calm, hcalm⟩
  case past => exact forall_mem_snoc.mpr ⟨h.past, fun t ht ↦ (hclock t ht).le⟩
  case forward =>
    rw [List.map_append]
    refine List.pairwise_append.mpr ⟨h.forward, List.pairwise_singleton _ _, fun e he e' he' t ht t' ht' ↦ ?_⟩
    obtain ⟨d, hd, rfl⟩ := List.mem_map.mp he
    rw [List.mem_singleton.mp he'] at ht'
    rw [hclock t' ht']
    exact h.past d hd t ht

theorem expiresHeld_eq_false
    (h : ∀ t ∈ others, t.2.holds = []) : expiresHeld deliveryID now others before after = false := by
  have hnone (d : Delivery) : (others.any fun t ↦ t.2.holds.any fun hold ↦
      hold.item.id == deliveryID && d.lockExpiresAt == some hold.expiresAt) = false := by
    rw [List.any_eq_false]
    intro t ht
    rw [h t ht]
    simp
  simp only [expiresHeld, hnone, Bool.and_false, Bool.false_and]
  simp

/-- Another worker sends the delivery and fails to record the attempt. -/
theorem Quiet.round (h : Quiet now deeds c) (hstuck : Stuck now c.state)
    (hidle : ∀ t ∈ c.threads, t.2.holds = []) :
    ∃ deeds' c', Quiet now deeds' c' ∧ Stuck (now + 2 * minute) c'.state ∧
      (∀ t ∈ c'.threads, t.2.holds = []) ∧ sends "del_1" c'.state = sends "del_1" c.state + 1 := by
  obtain ⟨db, ts⟩ := c
  let env : Env := { shopEnv 10 with now }
  have hdue : Stuck env.now db := hstuck
  obtain ⟨item, db₁, hclaim, hid, htenant, hpolicy, hsent, hstuck₁⟩ := claim_of_stuck (fun _ _ secret ↦ ⟨secret, rfl⟩) hdue
  let l : Op := .runDeliveries checksum shopClient "worker" 1
  let hold : Hold := .taken now item
  let db₂ : DB :=
    { db₁ with sent := db₁.sent ++ [⟨item.tenantID, item.id, item.endpointURL, item.body⟩] }
  have hstuck₂ : Stuck (now + 2 * minute) db₂ := hstuck₁.withSent _
  have hothers : ∀ t ∈ ts ++ [], t.2.holds = [] := by simpa using hidle
  have hstart : couriers.system.Does ⟨db, ts⟩ _ _ := .start db ts l .claiming rfl
  have hclaims : couriers.system.Does _ _ _ := .act db db₁ ts [] l .claiming (.sending [hold]) env (by
    change Courier.next l .claiming env db = _
    have hlimit : (if (1 : Int) ≤ 0 then 10 else (1 : Int).toNat) = 1 := rfl
    dsimp only [Courier.next, l]
    rw [hlimit, commitOn_eq_ok.mpr ⟨rfl, hclaim⟩]
    rfl)
  have hsends : couriers.system.Does _ _ _ :=
    .act db₁ db₂ ts [] l (.sending [hold]) (.recording hold ⟨200, [], "", false⟩ []) env rfl
  have hrecords : couriers.system.Does _ _ _ :=
    .act db₂ db₂ ts [] l (.recording hold ⟨200, [], "", false⟩ []) (.stopped .notFound) env (by
      change Courier.next l (.recording hold ⟨200, [], "", false⟩ []) env db₂ = _
      dsimp only [Courier.next, l]
      have hfails : recordDeliveryAttempt checksum hold.item ⟨200, [], "", false⟩ env db₂ =
          .error .notFound := record_of_stuck hstuck₂ htenant hpolicy
      rw [commitOn_eq_error.mpr ⟨rfl, .inr ⟨rfl, hfails⟩⟩])
  have hcalm {k : Courier} {before after : DB} :
      interrupts "del_1" ⟨l, .act env, k, ts ++ [], before, after⟩ = false :=
    expiresHeld_eq_false hothers
  have hnow {k : Courier} {before after : DB} : ∀ t ∈ clock (Deed.transition
      ⟨l, .act env, k, ts ++ [], before, after⟩), t = now := by
    intro t ht
    exact (Option.some.inj ht).symm
  have hquiet := (((h.snoc hstart ⟨rfl, nofun, rfl⟩ nofun).snoc hclaims ⟨rfl, nofun, hcalm⟩ hnow).snoc
    hsends ⟨rfl, nofun, hcalm⟩ hnow).snoc hrecords ⟨rfl, nofun, hcalm⟩ hnow
  refine ⟨_, _, hquiet, hstuck₂, forall_mem_snoc.mpr ⟨hidle, rfl⟩, ?_⟩
  · change sends "del_1" db₂ = _
    rw [sends_append, if_pos hid, sends, hsent]
    rfl

end Rounds

theorem nothingSent_onceDB : NothingSent onceDB where
  attempts := rfl
  deliveries d hd := by
    obtain rfl : d = onceDelivery := List.mem_singleton.mp hd
    rfl
  sent := rfl
  limited p hp := by
    obtain rfl : p = oncePolicy := List.mem_singleton.mp hp
    constructor <;> decide

theorem quiet_disabledRun : Quiet 0 disabledRun.1 disabledRun.2 where
  history := history_runCouriers nothingSent_onceDB
  calm := by
    have hcalm : ∀ deed ∈ disabledRun.1, (retriedID deed.label).isNone = true ∧
        (deed.kind matches .crash) = false ∧ interrupts "del_1" deed = false := by decide +kernel
    intro deed hdeed
    obtain ⟨hretries, hkind, hinterrupts⟩ := hcalm deed hdeed
    refine ⟨Option.isNone_iff_eq_none.mp hretries, fun hcrash ↦ ?_, hinterrupts⟩
    rw [hcrash] at hkind
    cases hkind
  past := by decide +kernel
  forward := by decide +kernel

/-- A policy that allows one attempt is disabled while its delivery is pending. However often one likes,
the delivery is sent without a crash, a retry or an expired lease between a claim and its recording. -/
theorem disabled_policy_sends_without_end :
    oncePolicy.maxAttempts = 1 ∧
      ∀ n : Nat, ∃ deeds c, couriers.system.History NothingSent deeds c ∧
        ClockForward (deeds.map Deed.transition) ∧
        (∀ deed ∈ deeds, retriedID deed.label = none ∧ deed.kind ≠ .crash) ∧
        (∃ d ∈ c.state.deliveries, d.id = "del_1" ∧
          SelectedPolicy c.state d (policyOf { oncePolicy with state := .disabled })) ∧
        interruptions "del_1" deeds = 0 ∧ sends "del_1" c.state = n := by
  have hrounds (n : Nat) : ∃ now deeds c, Quiet now deeds c ∧ Stuck now c.state ∧
      (∀ t ∈ c.threads, t.2.holds = []) ∧ sends "del_1" c.state = n := by
    induction n with
    | zero =>
      refine ⟨0, _, _, quiet_disabledRun, stuck_disabledRun, ?_, by decide +kernel⟩
      have hidle : ∀ t ∈ disabledRun.2.threads, t.2.holds.isEmpty = true := by decide +kernel
      exact fun t ht ↦ List.isEmpty_iff.mp (hidle t ht)
    | succ n ih =>
      obtain ⟨now, _, _, hquiet, hstuck, hidle, hsends⟩ := ih
      obtain ⟨deeds', c', hquiet', hstuck', hidle', hsends'⟩ := hquiet.round hstuck hidle
      refine ⟨now + 2 * minute, deeds', c', ?_, hstuck', hidle', by rw [hsends', hsends]⟩
      have hlater : now ≤ now + 2 * minute := Int.le_add_of_nonneg_right (by decide)
      exact ⟨hquiet'.history, hquiet'.calm, fun d hd t ht ↦ (hquiet'.past d hd t ht).trans hlater,
        hquiet'.forward⟩
  refine ⟨rfl, fun n ↦ ?_⟩
  obtain ⟨_, deeds, c, hquiet, hstuck, -, hsends⟩ := hrounds n
  refine ⟨deeds, c, hquiet.history, hquiet.forward, fun deed hdeed ↦ ?_, ?_, ?_, hsends⟩
  · exact ⟨(hquiet.calm deed hdeed).1, (hquiet.calm deed hdeed).2.1⟩
  · obtain ⟨d, hrows, hsame, -⟩ := hstuck.delivery
    have hd : d ∈ c.state.deliveries := by
      rw [Table.mem_def, hrows]
      exact List.mem_cons_self
    have hpolicies : disabledRun.2.state.retryPolicies.rows = [{ oncePolicy with state := .disabled }] := by
      with_unfolding_all rfl
    have hpolicy : { oncePolicy with state := .disabled } ∈ c.state.retryPolicies := by
      rw [hstuck.rest, Table.mem_def]
      exact hpolicies ▸ List.mem_cons_self
    refine ⟨d, hd, by rw [hsame]; rfl, .row _ hpolicy ?_ ?_ ?_⟩
    · rw [hsame]
      exact (by decide : onceDelivery.retryPolicyID ≠ "")
    · rw [hsame]
      rfl
    · rw [hsame]
      rfl
  · rw [interruptions, List.countP_eq_zero]
    intro deed hdeed
    rw [(hquiet.calm deed hdeed).2.2]
    decide

end Webhookery.Delivery
