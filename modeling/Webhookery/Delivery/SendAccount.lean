import Webhookery.Delivery.RetryWindow

/-!
# The account of a delivery

What was sent of a delivery, and what workers that hold it are still going to send, is set against the
attempts that were recorded: while a lease is held there may be one more, and each crash and each expired
lease between a claim and its recording adds one. Every step of a thread keeps this account, as long as
recordings commit and are not outdated.
-/

namespace Webhookery.Delivery

open Go Store App Relational Concurrency Provider Machine

variable {l : Op} {k k' : Courier} {env : Env} {db db' : DB} {now : Time} {d d' : Delivery}
  {crypto : Crypto} {policy : Retry.Policy} {item : DeliveryItem} {result : DeliveryResult}
  {deliveryID : String} {ts ts' others : List (Op × Courier)} {M : Int} {E : Nat}

/-! ## What was sent and what will be -/

/-- How often a delivery was sent. -/
def sends (deliveryID : String) (db : DB) : Nat := db.sent.countP (·.deliveryID == deliveryID)

/-- How often a delivery is among the holds. -/
def holdCount (deliveryID : String) (holds : List Hold) : Nat := holds.countP (·.item.id == deliveryID)

/-- How often threads are still going to send a delivery. -/
def unsent (deliveryID : String) (ts : List (Op × Courier)) : Nat :=
  (ts.map fun t ↦ holdCount deliveryID t.2.unsent).sum

theorem unsent_cons (deliveryID : String) (t : Op × Courier) (ts : List (Op × Courier)) :
    unsent deliveryID (t :: ts) = holdCount deliveryID t.2.unsent + unsent deliveryID ts := rfl

theorem holdCount_eq_zero (h : ∀ hold ∈ holds, hold.item.id ≠ deliveryID) : holdCount deliveryID holds = 0 := by
  apply List.countP_eq_zero.mpr
  intro hold hhold
  simpa using h hold hhold

theorem unsent_eq_zero (h : ∀ t ∈ ts, ∀ hold ∈ t.2.holds, hold.item.id ≠ deliveryID) : unsent deliveryID ts = 0 := by
  induction ts with
  | nil => rfl
  | cons t _ ih =>
    rw [unsent_cons, ih fun t ht ↦ h t (List.mem_cons_of_mem _ ht), holdCount_eq_zero]
    intro hold hhold
    refine h t List.mem_cons_self hold ?_
    obtain ⟨_, k⟩ := t
    cases k with
    | sending | other | claiming | stopped => exact hhold
    | recording => exact List.mem_cons_of_mem _ hhold

/-! ## Interruptions -/

/-- A thread that has not recorded the delivery has the lease that its row shows. -/
def LeaseLive (ts : List (Op × Courier)) (d : Delivery) : Prop :=
  d.state = .inProgress ∧
    ∃ t ∈ ts, ∃ hold ∈ t.2.holds, hold.item.id = d.id ∧ d.lockExpiresAt = some hold.expiresAt

/-- The deed takes back a lease that has expired while its thread held it. -/
def expiresHeld (deliveryID : String) (now : Time) (others : List (Op × Courier)) (before after : DB) : Bool :=
  before.deliveries.rows.any fun d ↦
    d.id == deliveryID && d.state == .inProgress && d.lockExpiresAt.any (· ≤ now) &&
      others.any (fun t ↦ t.2.holds.any fun hold ↦
        hold.item.id == deliveryID && d.lockExpiresAt == some hold.expiresAt) &&
      after.deliveries.rows.any fun d' ↦ d'.id == deliveryID && d'.lockExpiresAt != d.lockExpiresAt

/-- What comes between a claim of the delivery and its recording: the worker crashes, or its lease expires
and is taken back. -/
def interrupts (deliveryID : String) (deed : Deed Op Env DB Courier) : Bool :=
  match deed.kind with
  | .start => false
  | .act env => expiresHeld deliveryID env.now deed.others deed.before deed.after
  | .crash => deed.control.holds.any (·.item.id == deliveryID)

def interruptions (deliveryID : String) (deeds : List (Deed Op Env DB Courier)) : Nat :=
  deeds.countP (interrupts deliveryID)

/-! ## The account of a delivery -/

/-- What was sent and will be sent of a delivery is covered by the attempts recorded and the interruptions,
and by one more attempt while a lease is held; when the delivery is finished, by all attempts that its
policy allows. -/
inductive Covered (M : Int) (E spent : Nat) (ts : List (Op × Courier)) (d : Delivery) : Prop
  | finished (finished : isFinished d = true) (bound : spent ≤ M + E) : Covered M E spent ts d
  | leased (pending : isFinished d = false) (attempts : d.attemptCount < M) (held : LeaseLive ts d)
      (bound : spent ≤ d.attemptCount + 1 + E) : Covered M E spent ts d
  | waiting (pending : isFinished d = false) (attempts : d.attemptCount < M)
      (bound : spent ≤ d.attemptCount + E) : Covered M E spent ts d

theorem Covered.bound (h : Covered M E spent ts d) : spent ≤ M + E := by
  cases h with
  | finished _ bound => exact bound
  | leased | waiting => omega

/-- The sends of a delivery are those of a row, and they are covered. -/
structure Accounted (deliveryID : String) (M : Int) (E : Nat) (db : DB) (ts : List (Op × Courier)) : Prop where
  named : ∀ request ∈ db.sent, request.deliveryID = deliveryID → ∃ d ∈ db.deliveries, d.id = deliveryID
  covered : ∀ d ∈ db.deliveries, d.id = deliveryID →
    Covered M E (sends deliveryID db + unsent deliveryID ts) ts d

theorem LeaseLive.mono (h : LeaseLive ts d) (hsub : ∀ t ∈ ts, t ∈ ts') : LeaseLive ts' d := by
  obtain ⟨hstate, t, ht, hheld⟩ := h
  exact ⟨hstate, t, hsub t ht, hheld⟩

/-- Nothing changes for a delivery when its row and its lease stay and no more is sent than interruptions allow. -/
theorem Covered.change (h : Covered M E spent ts d) (hspent : spent' + E ≤ spent + E')
    (hlive : LeaseLive ts d → LeaseLive ts' d) : Covered M E' spent' ts' d := by
  cases h with
  | finished finished => exact .finished finished (by omega)
  | leased pending attempts held => exact .leased pending attempts (hlive held) (by omega)
  | waiting pending attempts => exact .waiting pending attempts (by omega)

theorem Accounted.perm (h : Accounted deliveryID M E db ts) (hperm : ts.Perm ts') :
    Accounted deliveryID M E db ts' where
  named := h.named
  covered d hd hid := by
    rw [unsent, ← (hperm.map _).sum_eq]
    exact (h.covered d hd hid).change le_rfl fun held ↦ held.mono fun t ht ↦ hperm.mem_iff.mp ht

/-- The lease is another thread's when this one holds nothing that matters. -/
theorem LeaseLive.of_cons (h : LeaseLive (t :: others) d)
    (hholds : ∀ hold ∈ t.2.holds, hold.item.id = d.id → hold ∈ t'.2.holds) :
    LeaseLive (t' :: others) d := by
  obtain ⟨hstate, t₁, ht₁, hold, hhold, hid, hlock⟩ := h
  refine ⟨hstate, ?_⟩
  rcases List.mem_cons.mp ht₁ with rfl | ht₁
  · exact ⟨t', List.mem_cons_self, hold, hholds hold hhold hid, hid, hlock⟩
  · exact ⟨t₁, List.mem_cons_of_mem _ ht₁, hold, hhold, hid, hlock⟩

/-! ## Claims -/

section Claim

variable {workerID : String} {items : List DeliveryItem} {spent : Nat}

theorem holdCount_taken (deliveryID : String) (now : Time) (hnodup : (items.map DeliveryItem.id).Nodup) :
    holdCount deliveryID (items.map (Hold.taken now)) =
      if deliveryID ∈ items.map DeliveryItem.id then 1 else 0 := by
  have hcount : holdCount deliveryID (items.map (Hold.taken now)) =
      (items.map DeliveryItem.id).count deliveryID := by
    rw [holdCount, List.countP_map, List.count, List.countP_map]
    rfl
  rw [hcount]
  split
  case isTrue hmem => exact List.count_eq_one_of_mem hnodup hmem
  case isFalse hmem => exact List.count_eq_zero_of_not_mem hmem

/-- A live lease that the claim takes back is an interruption. -/
theorem expiresHeld_of_claim (hclaim : ClaimTakes workerID now items db db') (hd : d ∈ db.deliveries)
    (hlive : LeaseLive others d) (hexpired : d.lockExpiresAt.any (· ≤ now) = true) :
    expiresHeld d.id now others db db' = true := by
  obtain ⟨hstate, t, ht, hold, hhold, hid, hlock⟩ := hlive
  have hafter : ∃ d' ∈ db'.deliveries, d'.id = d.id ∧ d'.lockExpiresAt ≠ d.lockExpiresAt := by
    refine ⟨_, (Table.mem_map hclaim.rows).mpr ⟨d, hd, rfl⟩, claimed_id now _ d, ?_⟩
    have hreleased : d.released now =
        { d with state := .scheduled, lockedBy := none, lockExpiresAt := none } :=
      if_pos ⟨hstate, hexpired⟩
    rw [hreleased, hlock]
    split
    · intro hsame
      rw [hlock, Option.any_some, decide_eq_true_eq] at hexpired
      have hnew : timestamptz now + deliveryLeaseTime = hold.expiresAt := Option.some.inj hsame
      exact absurd (hnew ▸ hexpired) (Int.not_le.mpr (lt_timestamptz_add_lease now))
    · nofun
  obtain ⟨d', hd', hsame, hlost⟩ := hafter
  simp only [expiresHeld, List.any_eq_true, Bool.and_eq_true, beq_iff_eq, bne_iff_ne]
  exact ⟨d, hd, ⟨⟨⟨rfl, hstate⟩, hexpired⟩, t, ht, hold, hhold, hid, hlock⟩, d', hd', hsame, hlost⟩

/-- What a claim does to the account of a delivery. -/
theorem covered_of_claim (hclaim : ClaimTakes workerID now items db db') (hd : d ∈ db.deliveries)
    (h : Covered M E spent ((l, .claiming) :: others) d) :
    Covered M (E + (expiresHeld d.id now others db db').toNat)
      (spent + if d.id ∈ items.map DeliveryItem.id then 1 else 0)
      ((l, .sending (items.map (.taken now))) :: others)
      (if d.id ∈ items.map DeliveryItem.id then (d.released now).claimedBy workerID now
        else d.released now) := by
  have hlive (held : LeaseLive ((l, Courier.claiming) :: others) d) : LeaseLive others d := by
    obtain ⟨hstate, t, ht, hheld⟩ := held
    rcases List.mem_cons.mp ht with rfl | ht
    · obtain ⟨_, hhold, -⟩ := hheld
      cases hhold
    · exact ⟨hstate, t, ht, hheld⟩
  have hcount : (d.released now).attemptCount = d.attemptCount := by
    unfold Delivery.released
    split <;> rfl
  split
  case isTrue hmem =>
    obtain ⟨item, hitem, hid⟩ := List.mem_map.mp hmem
    obtain ⟨d₀, hd₀, hsnapshot, hscheduled, -⟩ := hclaim.due item hitem
    obtain rfl : d₀ = d := Table.eq_of_key_eq hd₀ hd (hsnapshot.id.symm.trans hid)
    have hheld : LeaseLive ((l, .sending (items.map (.taken now))) :: others)
        ((d₀.released now).claimedBy workerID now) := by
      refine ⟨rfl, _, List.mem_cons_self, .taken now item, List.mem_map_of_mem hitem, ?_, rfl⟩
      have hkept := @claimed_id workerID now (items.map DeliveryItem.id) d₀
      rw [if_pos hmem] at hkept
      exact hid.trans hkept.symm
    have hclaimed : ((d₀.released now).claimedBy workerID now).attemptCount = d₀.attemptCount := hcount
    cases h with
    | finished finished =>
      have hreleased : d₀.released now = d₀ :=
        if_neg fun hexpired ↦ by simp [isFinished, hexpired.1] at finished
      rw [hreleased] at hscheduled
      simp [isFinished, hscheduled] at finished
    | leased _ attempts held =>
      -- the lease was live, so that it has expired
      have hexpired : d₀.lockExpiresAt.any (· ≤ now) = true := by
        by_contra hruns
        have hreleased : d₀.released now = d₀ := if_neg fun hexpired ↦ hruns hexpired.2
        rw [hreleased, held.1] at hscheduled
        cases hscheduled
      rw [expiresHeld_of_claim hclaim hd (hlive held) hexpired]
      refine .leased rfl (by rw [hclaimed]; exact attempts) hheld ?_
      rw [hclaimed, Bool.toNat_true]
      omega
    | waiting _ attempts =>
      refine .leased rfl (by rw [hclaimed]; exact attempts) hheld ?_
      rw [hclaimed]
      omega
  case isFalse =>
    cases h with
    | finished finished =>
      have hreleased : d.released now = d :=
        if_neg fun hexpired ↦ by simp [isFinished, hexpired.1] at finished
      rw [hreleased]
      exact .finished finished (by omega)
    | leased pending attempts held =>
      by_cases hexpired : d.lockExpiresAt.any (· ≤ now) = true
      · have hreleased : d.released now =
            { d with state := .scheduled, lockedBy := none, lockExpiresAt := none } :=
          if_pos ⟨held.1, hexpired⟩
        rw [expiresHeld_of_claim hclaim hd (hlive held) hexpired, hreleased, Bool.toNat_true]
        exact .waiting rfl attempts (by dsimp only; omega)
      · have hreleased : d.released now = d := if_neg fun h ↦ hexpired h.2
        rw [hreleased]
        exact .leased pending attempts ((hlive held).mono fun t ht ↦ List.mem_cons_of_mem _ ht) (by omega)
    | waiting pending attempts =>
      refine .waiting ?_ (by rw [hcount]; exact attempts) (by rw [hcount]; omega)
      unfold Delivery.released
      split
      · rfl
      · exact pending

end Claim

/-! ## Recordings -/

/-- What a recording needs: a connection, an active policy, a response that is text, the rows that it
refers to and new identifiers. -/
@[mk_iff]
structure Recordable (item : DeliveryItem) (result : DeliveryResult) (env : Env) (db : DB) : Prop where
  connection : env.connectionFails = false
  policy : item.retryPolicyID ≠ "" → ∃ p ∈ db.retryPolicies, p.tenantID = item.tenantID ∧
    p.id = item.retryPolicyID ∧ p.state = .active
  response : textAcceptsBytes (result.responseBody.take 16384) = true
  event : ∃ e ∈ db.events, e.id = item.eventID
  endpoint : ∃ e ∈ db.endpoints, e.id = item.endpointID
  attempt : ∀ a ∈ db.attempts, a.id ≠ env.mustID "att" 0
  entry : ∀ entry ∈ db.deadLetters, entry.id ≠ env.mustID "dlq" 0

theorem Recordable.exists_policy (h : Recordable item result env db) :
    ∃ policy, retryPolicyForDelivery item.tenantID item.retryPolicyID db = .ok policy := by
  unfold retryPolicyForDelivery
  split
  case isTrue => exact ⟨_, rfl⟩
  case isFalse hset =>
    obtain ⟨p, hp, htenant, hid, hactive⟩ := h.policy hset
    have hsome : (db.retryPolicies.find? fun p ↦ p.tenantID == item.tenantID &&
        p.id == item.retryPolicyID && p.state == .active).isSome = true :=
      List.find?_isSome.mpr ⟨p, hp, by simp [htenant, hid, hactive]⟩
    obtain ⟨row, hrow⟩ := Option.isSome_iff_exists.mp hsome
    exact ⟨_, bind_eq_ok.mpr ⟨row, selectRow_eq_ok.mpr hrow, rfl⟩⟩

theorem Recordable.exists_commit (crypto : Crypto) (h : Recordable item result env db)
    (hd : ∃ d ∈ db.deliveries, d.id = item.id) :
    ∃ db', recordDeliveryAttempt crypto item result env db = .ok ((), db') := by
  obtain ⟨policy, hpolicy⟩ := h.exists_policy
  obtain ⟨d, hd, hid⟩ := hd
  obtain ⟨event, hevent, heventID⟩ := h.event
  obtain ⟨endpoint, hendpoint, hendpointID⟩ := h.endpoint
  generalize houtcome : attemptOutcome crypto policy item result = outcome
  obtain ⟨attempts, hattempts⟩ := Table.exists_insert? (t := db.attempts)
    (x := attemptRow crypto env item result outcome) ⟨fun a ha ↦ h.attempt a ha, fun _ _ ↦ .inl rfl⟩
  have hrows : (textAcceptsBytes (result.responseBody.take 16384) &&
      db.deliveries.rows.any (·.id == item.id) && db.events.rows.any (·.id == item.eventID) &&
      db.endpoints.rows.any (·.id == item.endpointID)) = true := by
    simp only [h.response, Bool.true_and, Bool.and_eq_true, List.any_eq_true, beq_iff_eq]
    exact ⟨⟨⟨d, hd, hid⟩, event, hevent, heventID⟩, endpoint, hendpoint, hendpointID⟩
  have hattempt : insertAttempt (attemptRow crypto env item result outcome)
      (result.responseBody.take 16384) db = .ok { db with attempts } :=
    require_insertRow_eq_ok.mpr ⟨hrows, attempts, hattempts, rfl⟩
  have hentry : ∃ db', insertDeadLetter env item (attemptFailureClass result) outcome
      (settleDelivery crypto env.now item outcome { db with attempts }) = .ok db' := by
    cases outcome with
    | succeeded | retry => exact ⟨_, rfl⟩
    | deadLettered =>
      obtain ⟨entries, hentries⟩ := Table.exists_insert? (t := db.deadLetters)
        (x := { id := env.mustID "dlq" 0, tenantID := item.tenantID, deliveryID := item.id,
                eventID := item.eventID, reason := attemptFailureClass result, released := false,
                createdAt := timestamptz env.now })
        ⟨fun entry hmem ↦ h.entry entry hmem, fun _ _ ↦ .inl rfl⟩
      exact ⟨_, bind_eq_ok.mpr ⟨entries, insertRow_eq_ok.mpr hentries, rfl⟩⟩
  obtain ⟨db', hdb'⟩ := hentry
  subst houtcome
  exact ⟨db', bind_eq_ok.mpr ⟨policy, hpolicy, bind_eq_ok.mpr ⟨_, hattempt,
    bind_eq_ok.mpr ⟨db', hdb', rfl⟩⟩⟩⟩

/-- What the account of a delivery needs of a step: nobody retries the delivery, its recordings can commit,
and one that asks for another attempt finds the delivery pending and not attempted further than the claim
knew. -/
structure KeepsAccount (deliveryID : String) (deed : Deed Op Env DB Courier) : Prop where
  retries : retriedID deed.label ≠ some deliveryID
  recordable : ∀ hold result rest env, deed.control = .recording hold result rest →
    deed.kind = .act env → hold.item.id = deliveryID → Recordable hold.item result env deed.before
  current : ∀ hold result rest env, deed.control = .recording hold result rest →
    deed.kind = .act env → hold.item.id = deliveryID → attemptRetryable result = true →
    ∀ d ∈ deed.before.deliveries, d.id = deliveryID →
      isFinished d = false ∧ d.attemptCount ≤ hold.item.attemptCount

/-- What a committed recording does to the account of its delivery. -/
theorem covered_of_record (h : Covered M E spent ts d) (hretry : ∀ delay, outcome = .retry delay →
      isFinished d = false ∧ d.attemptCount ≤ item.attemptCount ∧ (item.attemptCount + 1 : Int) < M) :
    Covered M E spent ts' (d.afterAttempt crypto now item outcome) := by
  cases outcome with
  | succeeded | deadLettered => exact .finished rfl h.bound
  | retry delay =>
    obtain ⟨hpending, _, _⟩ := hretry delay rfl
    have hafter : (d.afterAttempt crypto now item (.retry delay)).attemptCount = item.attemptCount + 1 := rfl
    refine .waiting rfl (by rw [hafter]; omega) ?_
    rw [hafter]
    cases h with
    | finished finished => exact absurd (finished.symm.trans hpending) (by decide)
    | leased | waiting => omega

theorem retry_of_outcome (h : attemptOutcome crypto policy item result = .retry delay) :
    attemptRetryable result = true ∧ (item.attemptCount + 1 : Int) < policy.maxAttempts := by
  unfold attemptOutcome at h
  split at h
  · split at h
    case isTrue hretry => exact hretry
    case isFalse => cases h
  · cases h

/-! ## Steps -/

/-- The policies of the recordings of the delivery allow as many attempts. -/
def AllowsAttempts (deliveryID : String) (M : Int) (deed : Deed Op Env DB Courier) : Prop :=
  ∀ crypto item result env policy, Recording deed crypto item result env policy → item.id = deliveryID →
    policy.maxAttempts = M

theorem sends_append (deliveryID : String) (db : DB) (request : SentRequest) :
    sends deliveryID { db with sent := db.sent ++ [request] } =
      sends deliveryID db + if request.deliveryID = deliveryID then 1 else 0 := by
  simp [sends, List.countP_append, List.countP_cons]

/-- An update of deliveries that keeps the account of one. -/
theorem Accounted.of_map (h : Accounted deliveryID M E db ts)
    (hrows : db'.deliveries.rows = db.deliveries.rows.map f) (hid : ∀ d, (f d).id = d.id)
    (hnamed : ∀ request ∈ db'.sent, request.deliveryID = deliveryID →
      request ∈ db.sent ∨ ∃ d ∈ db.deliveries, d.id = deliveryID)
    (hcovered : ∀ d ∈ db.deliveries, d.id = deliveryID →
      Covered M E (sends deliveryID db + unsent deliveryID ts) ts d →
      Covered M E' (sends deliveryID db' + unsent deliveryID ts') ts' (f d)) :
    Accounted deliveryID M E' db' ts' where
  named := by
    intro request hrequest hsame
    have hrow : ∃ d ∈ db.deliveries, d.id = deliveryID := by
      rcases hnamed request hrequest hsame with hold | hrow
      · exact h.named request hold hsame
      · exact hrow
    obtain ⟨d, hd, hd'⟩ := hrow
    refine ⟨f d, ?_, (hid d).trans hd'⟩
    exact (Table.mem_map hrows).mpr ⟨_, hd, rfl⟩
  covered := by
    intro d' hd' hsame
    obtain ⟨d, hd, rfl⟩ := (Table.mem_map hrows).mp hd'
    have hsame' : d.id = deliveryID := (hid d).symm.trans hsame
    exact hcovered d hd hsame' (h.covered d hd hsame')

/-- Of a delivery that has no row nothing was sent, and no thread holds it. -/
theorem Accounted.unspent (h : Accounted deliveryID M E db ts) (hnone : ∀ d ∈ db.deliveries, d.id ≠ deliveryID)
    (hholds : ∀ t ∈ ts', HoldsNamed db t.2) : sends deliveryID db + unsent deliveryID ts' = 0 := by
  have hsends : sends deliveryID db = 0 := by
    rw [sends, List.countP_eq_zero]
    intro request hrequest hsame
    obtain ⟨d, hd, hid⟩ := h.named request hrequest (by simpa using hsame)
    exact hnone d hd hid
  rw [hsends, Nat.zero_add]
  apply unsent_eq_zero
  intro t ht hold hhold hsame
  obtain ⟨d, hd, hnames⟩ := hholds t ht hold hhold
  exact hnone d hd (hnames.id.trans hsame)

/-- A step of a thread that holds nothing, before and after. -/
theorem accounted_of_elsewhere (h : Accounted deliveryID M E db ((l, .other p) :: others))
    (hholds : ∀ t ∈ others, HoldsNamed db t.2) (hpositive : 0 < M) (hl : l.delivers = false)
    (hstep : RowsStep l env db db') (hretries : retriedID l ≠ some deliveryID) :
    Accounted deliveryID M E db' ((l, .other p') :: others) := by
  have hkeep {d : Delivery} (hsent : db'.sent = db.sent)
      (hc : Covered M E (sends deliveryID db + unsent deliveryID ((l, .other p) :: others))
        ((l, .other p) :: others) d) :
      Covered M E (sends deliveryID db' + unsent deliveryID ((l, .other p') :: others))
        ((l, .other p') :: others) d := by
    refine hc.change ?_ fun held ↦ held.of_cons nofun
    rw [sends, hsent]
    exact le_rfl
  cases hstep with
  | retried _ _ label commits =>
    obtain ⟨_, hrows, hids, hunchanged, hsent⟩ := rows_of_retry commits
    refine h.of_map hrows hids (fun _ hr _ ↦ .inl (hsent ▸ hr)) fun d _ hid hcovered ↦ ?_
    rw [hunchanged]
    · exact hkeep hsent hcovered
    · intro hsame
      rw [label, retriedID, ← hsame, hid] at hretries
      exact hretries rfl
  | created codec req ref rows _ sent =>
    constructor
    case named =>
      exact fun request hrequest hsame ↦
        (DeliveriesKept.of_append rows).exists_id (h.named request (sent ▸ hrequest) hsame)
    case covered =>
      intro d hd hid
      have hmem : d ∈ db.deliveries.rows ++ [(deliveryRow codec.crypto env req).withPayload ref] := rows ▸ hd
      rcases List.mem_append.mp hmem with hmem | hnew
      · exact hkeep sent (h.covered d hmem hid)
      · have hnone : ∀ d₀ ∈ db.deliveries, d₀.id ≠ deliveryID := by
          intro d₀ hd₀ hid₀
          obtain rfl := Table.eq_of_key_eq ((Table.mem_append rows).mpr (.inl hd₀)) hd (hid₀.trans hid.symm)
          exact Table.not_mem_of_rows_append rows hnew hd₀
        have hspent : sends deliveryID db + unsent deliveryID ((l, .other p') :: others) = 0 :=
          h.unspent hnone (List.forall_mem_cons.mpr ⟨nofun, hholds⟩)
        obtain rfl := List.mem_singleton.mp hnew
        rw [sends, sent, ← sends, hspent]
        exact .waiting rfl hpositive (Nat.zero_le _)
  | carried _ carries =>
    have sent := carries.sent hl
    refine h.of_map carries.rows (fun d ↦ ?_) (fun request hr _ ↦ .inl (sent ▸ hr)) fun d _ _ hcovered ↦ ?_
    · rw [carries.same d]
    · rcases carries.canceled hl d with hf | hf <;> rw [hf]
      · exact hkeep sent hcovered
      · exact .finished rfl (hkeep sent hcovered).bound

theorem accounted_of_claim (h : Accounted deliveryID M E db ((l, .claiming) :: others))
    (hclaim : ClaimTakes workerID now items db db') :
    Accounted deliveryID M (E + (expiresHeld deliveryID now others db db').toNat) db'
      ((l, .sending (items.map (.taken now))) :: others) := by
  have hsent : db'.sent = db.sent := by rw [hclaim.frame]
  refine h.of_map hclaim.rows (claimed_id now _) (fun request hr _ ↦ .inl (hsent ▸ hr))
    fun d hd hid hcovered ↦ ?_
  have hspent : sends deliveryID db' +
      unsent deliveryID ((l, .sending (items.map (.taken now))) :: others) =
      sends deliveryID db + unsent deliveryID ((l, .claiming) :: others) +
        if d.id ∈ items.map DeliveryItem.id then 1 else 0 := by
    have hcount : holdCount deliveryID (Courier.sending (items.map (.taken now))).unsent =
        if d.id ∈ items.map DeliveryItem.id then 1 else 0 := by
      rw [hid]
      exact holdCount_taken deliveryID now hclaim.nodup
    have hnone : holdCount deliveryID Courier.claiming.unsent = 0 := rfl
    rw [unsent_cons, unsent_cons, hcount, hnone, sends, sends, hsent]
    omega
  rw [hspent, ← hid]
  rw [← hid] at hcovered
  exact covered_of_claim hclaim hd hcovered

variable {rest : List Hold}

theorem accounted_of_send {hold : Hold} {reply : ClientReply}
    (h : Accounted deliveryID M E db ((l, .sending (hold :: rest)) :: others))
    (hheld : HoldsNamed db (.sending (hold :: rest)))
    (hstate : db' = if reply.sent then
      { db with
        sent := db.sent ++
          [⟨hold.item.tenantID, hold.item.id, hold.item.endpointURL, hold.item.body⟩] }
      else db) :
    Accounted deliveryID M E db' ((l, .recording hold reply.result rest) :: others) := by
  obtain ⟨d₀, hd₀, hnames⟩ := hheld hold List.mem_cons_self
  have hdeliveries : db'.deliveries = db.deliveries := by
    rw [hstate]
    split <;> rfl
  have hspent : sends deliveryID db' + unsent deliveryID ((l, .recording hold reply.result rest) :: others) ≤
      sends deliveryID db + unsent deliveryID ((l, .sending (hold :: rest)) :: others) := by
    have hbefore : holdCount deliveryID (Courier.sending (hold :: rest)).unsent =
        holdCount deliveryID rest + if hold.item.id = deliveryID then 1 else 0 := by
      simp [holdCount, Courier.unsent, List.countP_cons]
    have hafter : holdCount deliveryID (Courier.recording hold reply.result rest).unsent =
        holdCount deliveryID rest := rfl
    have hsends : sends deliveryID db' ≤
        sends deliveryID db + if hold.item.id = deliveryID then 1 else 0 := by
      rw [hstate]
      split
      · exact (sends_append deliveryID db _).le
      · exact Nat.le_add_right _ _
    rw [unsent_cons, unsent_cons, hbefore, hafter]
    omega
  have hrows : db'.deliveries.rows = db.deliveries.rows.map id := by rw [hdeliveries, List.map_id]
  refine h.of_map hrows (fun _ ↦ rfl) (fun request hrequest hsame ↦ ?_) fun d _ _ hcovered ↦
    hcovered.change (by omega) fun held ↦ held.of_cons fun _ hhold _ ↦ hhold
  rw [hstate] at hrequest
  split at hrequest
  · rcases List.mem_append.mp hrequest with hold | hnew
    · exact .inl hold
    · obtain rfl := List.mem_singleton.mp hnew
      exact .inr ⟨d₀, hd₀, hnames.id.trans hsame⟩
  · exact .inl hrequest

theorem accounted_of_recorded (h : Accounted deliveryID M E db ((l, .recording hold result rest) :: others))
    (hheld : HoldsNamed db (.recording hold result rest))
    (hcommits : recordDeliveryAttempt crypto hold.item result env db = .ok ((), db'))
    (hcurrent : hold.item.id = deliveryID → attemptRetryable result = true →
      ∀ d ∈ db.deliveries, d.id = deliveryID →
        isFinished d = false ∧ d.attemptCount ≤ hold.item.attemptCount)
    (hallows : hold.item.id = deliveryID → ∀ policy,
      retryPolicyForDelivery hold.item.tenantID hold.item.retryPolicyID db = .ok policy →
        policy.maxAttempts = M) :
    Accounted deliveryID M E db' ((l, .sending rest) :: others) := by
  obtain ⟨policy, _, _, hpolicy, -, -, rfl⟩ := recordDeliveryAttempt_decides hcommits
  refine h.of_map rfl (fun d ↦ by split; exacts [d.afterAttempt_id _ _ _ _, rfl]) (fun _ hr _ ↦ .inl hr)
    fun d hd hid hcovered ↦ ?_
  split
  case isTrue hmatch =>
    have hsame : hold.item.id = deliveryID := hmatch.2.symm.trans hid
    refine covered_of_record hcovered fun delay hdelay ↦ ?_
    obtain ⟨hretryable, hleft⟩ := retry_of_outcome hdelay
    obtain ⟨hpending, hcount⟩ := hcurrent hsame hretryable d hd hid
    exact ⟨hpending, hcount, hallows hsame policy hpolicy ▸ hleft⟩
  case isFalse hmatch =>
    refine hcovered.change le_rfl fun held ↦ held.of_cons fun hold' hhold' hsame ↦ ?_
    rcases List.mem_cons.mp hhold' with rfl | hrest
    · -- the delivery that is recorded is another one
      obtain ⟨d₀, hd₀, hnames⟩ := hheld hold' List.mem_cons_self
      obtain rfl : d₀ = d := Table.eq_of_key_eq hd₀ hd (hnames.id.trans hsame)
      exact absurd ⟨hnames.tenantID, hnames.id⟩ hmatch
    · exact hrest

/-- The lease of a thread that is gone covers nothing any more; what it has not sent is given up, or an
interruption stands for it. -/
theorem Covered.dropped (h : Covered M E (n + unsent d.id (t :: others)) (t :: others) d) (hE : E ≤ E')
    (hlost : ∀ hold ∈ t.2.holds, hold.item.id = d.id → E + 1 ≤ E' + holdCount d.id t.2.unsent) :
    Covered M E' (n + unsent d.id others) others d := by
  rw [unsent_cons] at h
  cases h with
  | finished finished => exact .finished finished (by omega)
  | waiting pending attempts => exact .waiting pending attempts (by omega)
  | leased pending attempts held =>
    obtain ⟨hstate, t₁, ht₁, hold, hhold, hsame, hlock⟩ := held
    rcases List.mem_cons.mp ht₁ with rfl | ht₁
    · have hcount := hlost hold hhold hsame
      exact .waiting pending attempts (by omega)
    · exact .leased pending attempts ⟨hstate, t₁, ht₁, hold, hhold, hsame, hlock⟩ (by omega)

/-- A thread that gives up loses what it has not sent yet. -/
theorem accounted_of_unrecorded (h : Accounted deliveryID M E db ((l, .recording hold result rest) :: others))
    (hother : hold.item.id ≠ deliveryID) :
    Accounted deliveryID M E db ((l, .stopped e) :: others) := by
  refine ⟨h.named, fun d hd hid ↦ ?_⟩
  subst hid
  have hnone : holdCount d.id (Courier.stopped e).unsent = 0 := rfl
  refine ((h.covered d hd rfl).dropped le_rfl fun hold' hhold' hsame ↦ ?_).change (by rw [unsent_cons, hnone, Nat.zero_add])
    fun held ↦ held.mono fun t ht ↦ List.mem_cons_of_mem _ ht
  have hrest : hold' ∈ rest := (List.mem_cons.mp hhold').resolve_left fun h ↦ hother (h ▸ hsame)
  exact Nat.add_le_add_left (List.countP_pos_iff.mpr ⟨hold', hrest, by simpa using hsame⟩) E

/-- One step of a thread keeps the account, with one more interruption where the step is one. -/
theorem accounted_of_step (h : Accounted deliveryID M E deed.before ((deed.label, deed.control) :: deed.others))
    (hholds : ∀ t ∈ (deed.label, deed.control) :: deed.others, HoldsNamed deed.before t.2)
    (hpositive : 0 < M) (hkind : deed.kind = .act env)
    (hstep : CourierStep deed.label deed.control env deed.before k' deed.after)
    (hkeeps : KeepsAccount deliveryID deed) (hallows : AllowsAttempts deliveryID M deed) :
    Accounted deliveryID M (E + (interrupts deliveryID deed).toNat) deed.after
      ((deed.label, k') :: deed.others) := by
  obtain ⟨_, _, _, _, db, _⟩ := deed
  dsimp only at *
  subst hkind
  have hmore {n : Nat} {db : DB} {ts : List (Op × Courier)} (h : Accounted deliveryID M E db ts) :
      Accounted deliveryID M (E + n) db ts :=
    ⟨h.named, fun d hd hid ↦ (h.covered d hd hid).change (by omega) id⟩
  have hown := hholds _ List.mem_cons_self
  cases hstep with
  | elsewhere _ _ before after hl rows =>
    subst before after
    exact hmore (accounted_of_elsewhere h (fun t ht ↦ hholds t (List.mem_cons_of_mem _ ht)) hpositive
      hl rows hkeeps.retries)
  | claimed _ _ _ before after commits =>
    subst before after
    exact accounted_of_claim h (claimTakes_of_commit commits)
  | unclaimed e before after state =>
    subst before after state
    exact hmore ⟨h.named, fun d hd hid ↦
      (h.covered d hd hid).change le_rfl fun held ↦ held.of_cons fun _ hhold _ ↦ hhold⟩
  | sent _ _ _ before after state =>
    subst before after
    exact hmore (accounted_of_send h hown state)
  | recorded crypto hold result rest label before after commits =>
    subst before after
    refine hmore (accounted_of_recorded h hown commits ?_ fun hid policy hpolicy ↦ ?_)
    · exact hkeeps.current hold result rest env rfl rfl
    · exact hallows crypto hold.item result env policy ⟨label, ⟨hold, rest, rfl, rfl⟩, rfl, hpolicy, commits⟩ hid
  | unrecorded crypto hold result rest _ _ before after state refused =>
    subst before after state
    refine hmore (accounted_of_unrecorded h fun hid ↦ ?_)
    have hrecordable := hkeeps.recordable hold result rest env rfl rfl hid
    obtain ⟨d, hd, hnames⟩ := hown hold List.mem_cons_self
    obtain ⟨_, hcommits⟩ := hrecordable.exists_commit crypto ⟨d, hd, hnames.id⟩
    rcases refused with hfails | ⟨_, he'⟩
    · exact absurd (hfails.symm.trans hrecordable.connection) (by decide)
    · cases he'.symm.trans hcommits

/-- A thread that crashes may have sent what it holds. -/
theorem accounted_of_crash (h : Accounted deliveryID M E db ((l, k) :: others)) :
    Accounted deliveryID M (E + (k.holds.any (·.item.id == deliveryID)).toNat) db others := by
  refine ⟨h.named, fun d hd hid ↦ ?_⟩
  subst hid
  refine (h.covered d hd rfl).dropped (Nat.le_add_right _ _) fun hold hhold hsame ↦ ?_
  have hany : k.holds.any (·.item.id == d.id) = true :=
    List.any_eq_true.mpr ⟨hold, hhold, by simpa using hsame⟩
  rw [hany, Bool.toNat_true]
  omega

end Webhookery.Delivery
