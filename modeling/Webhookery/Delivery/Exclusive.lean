import Mathlib.Tactic.MkIffOfInductiveProp
import Webhookery.Delivery.Couriers
import Webhookery.Delivery.OutboxLeases

/-!
# Leases on deliveries

A worker that claims a delivery has a lease on it for sixty seconds. The claim protocol keeps other workers
away meanwhile, but an operator may retry a delivery that a worker holds, and a worker may record an
attempt when its lease is over; both make the delivery due again whoever holds it. When an operator retries
only what nobody holds and workers record in time, the leases of two workers never overlap.
-/

namespace Webhookery.Delivery

open Go Store App Relational Concurrency Provider Machine

variable {l : Op} {k k' : Courier} {env : Env} {db db' : DB} {now now' : Time} {h h' : Hold}
  {t : Op × Courier} {ts ts' others : List (Op × Courier)} {d : Delivery}

/-! ## Leases that do not overlap -/

/-- One lease ends before the other begins. -/
def Hold.Apart (h h' : Hold) : Prop := h.expiresAt ≤ h'.claimedAt ∨ h'.expiresAt ≤ h.claimedAt

theorem Hold.Apart.symm (hapart : h.Apart h') : h'.Apart h := Or.symm hapart

/-- The leases of two threads on one delivery do not overlap. -/
def HeldApart (t t' : Op × Courier) : Prop :=
  ∀ h ∈ t.2.holds, ∀ h' ∈ t'.2.holds, h.item.id = h'.item.id → h.Apart h'

theorem HeldApart.symm (hapart : HeldApart t t') : HeldApart t' t :=
  fun h hh h' hh' hid ↦ (hapart h' hh' h hh hid.symm).symm

/-- No delivery is held by two threads whose leases overlap. -/
def LeasesApart (c : Threads Op DB Courier) : Prop := c.threads.Pairwise HeldApart

/-- A delivery that the claim protocol does not hand out while the lease runs. -/
def Guarded (h : Hold) (d : Delivery) : Prop :=
  isFinished d = true ∨ (d.state = .inProgress ∧ d.lockExpiresAt = some h.expiresAt)

/-- The lease has begun, and while it runs its delivery is guarded. -/
structure HoldSound (now : Time) (db : DB) (h : Hold) : Prop where
  claimed : h.claimedAt ≤ now
  lasts : h.claimedAt < h.expiresAt
  known : ∃ d ∈ db.deliveries, d.id = h.item.id
  guarded : now < h.expiresAt → ∀ d ∈ db.deliveries, d.id = h.item.id → Guarded h d

/-- What holds of all threads together. -/
structure LeasesSound (now : Time) (db : DB) (ts : List (Op × Courier)) : Prop where
  apart : ts.Pairwise HeldApart
  distinct : ∀ t ∈ ts, (t.2.holds.map (·.item.id)).Nodup
  held : ∀ t ∈ ts, ∀ h ∈ t.2.holds, HoldSound now db h

theorem HoldSound.later (hsound : HoldSound now db h) (hle : now ≤ now') : HoldSound now' db h where
  claimed := hsound.claimed.trans hle
  lasts := hsound.lasts
  known := hsound.known
  guarded := fun hlt ↦ hsound.guarded (hle.trans_lt hlt)

theorem LeasesSound.later (hsound : LeasesSound now db ts) (hle : now ≤ now') : LeasesSound now' db ts :=
  ⟨hsound.apart, hsound.distinct, fun t ht h hh ↦ (hsound.held t ht h hh).later hle⟩

theorem LeasesSound.perm (hsound : LeasesSound now db ts) (hperm : ts.Perm ts') : LeasesSound now db ts' where
  apart := (hperm.pairwise_iff HeldApart.symm).mp hsound.apart
  distinct t ht := hsound.distinct t (hperm.mem_iff.mpr ht)
  held t ht := hsound.held t (hperm.mem_iff.mpr ht)

theorem LeasesSound.tail (hsound : LeasesSound now db (t :: ts)) : LeasesSound now db ts where
  apart := hsound.apart.tail
  distinct t ht := hsound.distinct t (List.mem_cons_of_mem _ ht)
  held t ht := hsound.held t (List.mem_cons_of_mem _ ht)

/-- A thread with its own leases joins the others. -/
theorem LeasesSound.cons (hsound : LeasesSound now db ts) (hapart : ∀ t' ∈ ts, HeldApart t t')
    (hdistinct : (t.2.holds.map (·.item.id)).Nodup) (hheld : ∀ h ∈ t.2.holds, HoldSound now db h) :
    LeasesSound now db (t :: ts) where
  apart := List.pairwise_cons.mpr ⟨hapart, hsound.apart⟩
  distinct := List.forall_mem_cons.mpr ⟨hdistinct, hsound.distinct⟩
  held := List.forall_mem_cons.mpr ⟨hheld, hsound.held⟩

/-- The thread keeps some of what it held. -/
theorem LeasesSound.shrink (hsound : LeasesSound now db ((l, k) :: ts))
    (hholds : k'.holds.Sublist k.holds) : LeasesSound now db ((l, k') :: ts) := by
  refine hsound.tail.cons (fun t ht ↦ ?_) ?_ fun h hh ↦ ?_
  · intro h hh
    exact (List.pairwise_cons.mp hsound.apart).1 t ht h (hholds.subset hh)
  · exact (hsound.distinct (l, k) List.mem_cons_self).sublist (hholds.map _)
  · exact hsound.held (l, k) List.mem_cons_self h (hholds.subset hh)

/-! ## Steps -/

/-- The rows of deliveries were updated, and the delivery of a running lease stays guarded. -/
theorem HoldSound.update (hsound : HoldSound now db h)
    (hrows : db'.deliveries.rows = db.deliveries.rows.map f) (hid : ∀ d, (f d).id = d.id)
    (hguard : now < h.expiresAt → ∀ d ∈ db.deliveries, d.id = h.item.id → Guarded h d → Guarded h (f d)) :
    HoldSound now db' h where
  claimed := hsound.claimed
  lasts := hsound.lasts
  known := by
    obtain ⟨d, hd, hsame⟩ := hsound.known
    refine ⟨f d, ?_, (hid d).trans hsame⟩
    exact (Table.mem_map hrows).mpr ⟨_, hd, rfl⟩
  guarded := by
    intro hlt d' hd' hsame
    obtain ⟨d, hd, rfl⟩ := (Table.mem_map hrows).mp hd'
    have hsame' : d.id = h.item.id := (hid d).symm.trans hsame
    exact hguard hlt d hd hsame' (hsound.guarded hlt d hd hsame')

theorem HoldSound.append (hsound : HoldSound now db h)
    (hrows : db'.deliveries.rows = db.deliveries.rows ++ [row]) : HoldSound now db' h where
  claimed := hsound.claimed
  lasts := hsound.lasts
  known := (DeliveriesKept.of_append hrows).exists_id hsound.known
  guarded := by
    intro hlt d' hd' hsame
    -- the delivery of the lease is an old row, and keys are unique
    obtain ⟨d, hd, hold⟩ := hsound.known
    have hmem : d ∈ db'.deliveries := (Table.mem_append hrows).mpr (.inl hd)
    obtain rfl : d' = d := Table.eq_of_key_eq hd' hmem (hsame.trans hold.symm)
    exact hsound.guarded hlt d' hd hsame

theorem LeasesSound.of_holds (hsound : LeasesSound now db ts)
    (hheld : ∀ t ∈ ts, ∀ h ∈ t.2.holds, HoldSound now db h → HoldSound now db' h) :
    LeasesSound now db' ts :=
  ⟨hsound.apart, hsound.distinct, fun t ht h hh ↦ hheld t ht h hh (hsound.held t ht h hh)⟩

/-- The delivery that an operation retries. -/
def retriedID : Op → Option String
  | .retryDelivery _ deliveryID => some deliveryID
  | _ => none

/-- The delivery whose attempt a thread is about to record. -/
def Courier.attempted : Courier → Option Hold
  | .recording hold _ _ => some hold
  | _ => none

/-- What the leases need of a step: an operator retries a delivery when nobody has a running lease on it,
and a worker records an attempt while its own lease runs. -/
@[mk_iff]
structure KeepsLeases (deed : Deed Op Env DB Courier) : Prop where
  retry : ∀ now ∈ clock deed.transition, ∀ deliveryID ∈ retriedID deed.label,
    ∀ t ∈ deed.others, ∀ h ∈ t.2.holds, h.item.id = deliveryID → h.expiresAt ≤ now
  record : ∀ now ∈ clock deed.transition, ∀ hold ∈ deed.control.attempted, now < hold.expiresAt

/-- A retry changes the row of its delivery only. -/
theorem rows_of_retry (h : retryDelivery tenantID deliveryID env db = .ok ((), db')) :
    ∃ f : Delivery → Delivery, db'.deliveries.rows = db.deliveries.rows.map f ∧ (∀ d, (f d).id = d.id) ∧
      (∀ d, d.id ≠ deliveryID → f d = d) ∧ db'.sent = db.sent := by
  obtain ⟨_, -, h⟩ := bind_eq_ok.mp h
  cases h
  refine ⟨_, rfl, fun d ↦ by split <;> rfl, fun d hne ↦ if_neg fun hmatch ↦ hne ?_, rfl⟩
  simp only [Bool.and_eq_true, beq_iff_eq] at hmatch
  exact hmatch.1.2

theorem leasesSound_of_elsewhere
    (hsound : LeasesSound env.now db ((l, .other p) :: others)) (hl : l.delivers = false)
    (h : RowsStep l env db db')
    (hretry : ∀ tenantID deliveryID, l = .retryDelivery tenantID deliveryID →
      ∀ t ∈ others, ∀ h ∈ t.2.holds, h.item.id = deliveryID → h.expiresAt ≤ env.now) :
    LeasesSound env.now db' ((l, .other p') :: others) := by
  have hsame : LeasesSound env.now db ((l, .other p') :: others) := hsound.shrink (List.Sublist.refl [])
  apply hsame.of_holds
  intro t ht hold hh hheld
  have hother : t ∈ others := by
    rcases List.mem_cons.mp ht with rfl | ht
    · cases hh
    · exact ht
  cases h with
  | retried tenantID deliveryID label commits =>
    obtain ⟨_, hrows, hids, hunchanged, -⟩ := rows_of_retry commits
    refine hheld.update hrows hids fun hlt d _ hid hguarded ↦ ?_
    rw [hunchanged]
    · exact hguarded
    · intro hsame
      have hover := hretry tenantID deliveryID label t hother hold hh (hid.symm.trans hsame)
      exact absurd hlt (Int.not_lt.mpr hover)
  | created _ _ _ rows => exact hheld.append rows
  | carried f carries =>
    refine hheld.update carries.rows (fun d ↦ ?_) fun _ d _ _ hguarded ↦ ?_
    · rw [carries.same d]
    · rcases carries.canceled hl d with hf | hf
      · rwa [hf]
      · rw [hf]
        exact .inl rfl

/-- A claim leaves a guarded delivery alone. -/
theorem released_of_guarded (hguarded : Guarded h d) (hnow : now < h.expiresAt) :
    d.released now = d ∧ d.state ≠ .scheduled := by
  rcases hguarded with hfinished | ⟨hstate, hlock⟩
  · have hstate : d.state ≠ .scheduled ∧ d.state ≠ .inProgress := by
      constructor <;> intro hstate <;> simp [isFinished, hstate] at hfinished
    exact ⟨if_neg fun hexpired ↦ hstate.2 hexpired.1, hstate.1⟩
  · refine ⟨if_neg fun hexpired ↦ ?_, by simp [hstate]⟩
    have hle := hexpired.2
    rw [hlock] at hle
    simp only [Option.any_some, decide_eq_true_eq] at hle
    exact absurd hnow (Int.not_lt.mpr hle)

section Claim

variable {workerID : String} {items : List DeliveryItem}

theorem claimed_id (now : Time) (ids : List String) (d : Delivery) :
    (if d.id ∈ ids then (d.released now).claimedBy workerID now else d.released now).id = d.id := by
  unfold Delivery.released Delivery.claimedBy
  split <;> split <;> rfl

variable (hclaim : ClaimTakes workerID now items db db')
include hclaim

/-- The delivery of a running lease is not among the claimed ones. -/
theorem not_claimed_of_guarded (hd : d ∈ db.deliveries) (hguarded : Guarded h d) (hnow : now < h.expiresAt) : d.id ∉ items.map DeliveryItem.id := by
  intro hmem
  obtain ⟨item, hitem, hid⟩ := List.mem_map.mp hmem
  obtain ⟨d', hd', hsnapshot, hscheduled, -⟩ := hclaim.due item hitem
  obtain rfl : d' = d := Table.eq_of_key_eq hd' hd (hsnapshot.id.symm.trans hid)
  obtain ⟨hreleased, hstate⟩ := released_of_guarded hguarded hnow
  rw [hreleased] at hscheduled
  exact hstate hscheduled

theorem HoldSound.claim (hsound : HoldSound now db h) : HoldSound now db' h := by
  refine hsound.update hclaim.rows (claimed_id now _) fun hnow d hd _ hguarded ↦ ?_
  rw [if_neg (not_claimed_of_guarded hclaim hd hguarded hnow), (released_of_guarded hguarded hnow).1]
  exact hguarded

omit hclaim in
theorem lt_timestamptz_add_lease (now : Time) : now < timestamptz now + deliveryLeaseTime := by
  have hlt (n : Int) : n < n / 1000 * 1000 + 60000000000 := by omega
  exact hlt now

theorem holdSound_taken (hitem : item ∈ items) : HoldSound now db' (.taken now item) := by
  obtain ⟨d, hd, hsnapshot, -⟩ := hclaim.due item hitem
  have hclaimed : d.id ∈ items.map DeliveryItem.id := hsnapshot.id ▸ List.mem_map_of_mem hitem
  have hmem := (Table.mem_map hclaim.rows).mpr ⟨d, hd, rfl⟩
  have hid := @claimed_id workerID now (items.map DeliveryItem.id) d
  rw [if_pos hclaimed] at hmem hid
  constructor
  case claimed => exact le_rfl
  case lasts => exact lt_timestamptz_add_lease now
  case known => exact ⟨_, hmem, hid.trans hsnapshot.id.symm⟩
  case guarded =>
    intro _ d' hd' hsame
    obtain rfl : d' = _ := Table.eq_of_key_eq hd' hmem (hsame.trans (hsnapshot.id.trans hid.symm))
    exact .inr ⟨rfl, rfl⟩

theorem leasesSound_of_claim (hsound : LeasesSound now db ((l, .claiming) :: others)) :
    LeasesSound now db' ((l, .sending (items.map (.taken now))) :: others) := by
  have hothers : LeasesSound now db' others := hsound.tail.of_holds fun _ _ _ _ hheld ↦ hheld.claim hclaim
  refine hothers.cons (fun t ht hold hh h' hh' hid ↦ ?_) ?_ fun hold hh ↦ ?_
  · -- a lease that still runs would have kept the delivery from being claimed
    obtain ⟨_, hitem, rfl⟩ := List.mem_map.mp hh
    right
    by_contra hruns
    have hnow : now < h'.expiresAt := Int.not_le.mp hruns
    have hheld := hsound.tail.held t ht h' hh'
    obtain ⟨d, hd, hknown⟩ := hheld.known
    apply not_claimed_of_guarded hclaim hd (hheld.guarded hnow d hd hknown) hnow
    rw [hknown, ← hid]
    exact List.mem_map_of_mem hitem
  · have hids : (items.map (Hold.taken now)).map (·.item.id) = items.map DeliveryItem.id := by
      rw [List.map_map]
      rfl
    change ((items.map (Hold.taken now)).map (·.item.id)).Nodup
    rw [hids]
    exact hclaim.nodup
  · obtain ⟨_, hitem, rfl⟩ := List.mem_map.mp hh
    exact holdSound_taken hclaim hitem

end Claim

theorem leasesSound_of_record {crypto : Crypto} {hold : Hold} {result : DeliveryResult} {rest : List Hold}
    (hsound : LeasesSound env.now db ((l, .recording hold result rest) :: others))
    (hcommits : recordDeliveryAttempt crypto hold.item result env db = .ok ((), db'))
    (hruns : env.now < hold.expiresAt) : LeasesSound env.now db' ((l, .sending rest) :: others) := by
  obtain ⟨_, _, _, -, -, rfl⟩ := recordDeliveryAttempt_eq_ok hcommits
  have hshrunk : LeasesSound env.now db ((l, .sending rest) :: others) :=
    hsound.shrink (List.sublist_cons_self hold rest)
  have hown := hsound.held _ List.mem_cons_self hold List.mem_cons_self
  -- no other running lease is on the delivery that is recorded
  have hother : ∀ t ∈ (l, Courier.sending rest) :: others, ∀ h ∈ t.2.holds, env.now < h.expiresAt →
      h.item.id ≠ hold.item.id := by
    intro t ht h hh hlt hid
    rcases List.mem_cons.mp ht with rfl | ht
    · have hdistinct := hsound.distinct _ List.mem_cons_self
      have hnot : hold.item.id ∉ rest.map (·.item.id) := (List.nodup_cons.mp hdistinct).1
      exact hnot (hid ▸ List.mem_map_of_mem hh)
    · have hclaimed := (hsound.tail.held t ht h hh).claimed
      have hapart := (List.pairwise_cons.mp hsound.apart).1 t ht hold List.mem_cons_self h hh hid.symm
      rcases hapart with hle | hle
      · exact absurd hruns (Int.not_lt.mpr (hle.trans hclaimed))
      · exact absurd hlt (Int.not_lt.mpr (hle.trans hown.claimed))
  apply hshrunk.of_holds
  intro t ht h hh hheld
  refine hheld.update rfl (fun d ↦ by split; exacts [d.afterAttempt_id _ _ _ _, rfl]) ?_
  intro hlt d hd hid hguarded
  rw [if_neg]
  · exact hguarded
  · exact fun hmatch ↦ hother t ht h hh hlt (hid.symm.trans hmatch.2)

theorem leasesSound_of_step (hsound : LeasesSound env.now db ((l, k) :: others))
    (hstep : CourierStep l k env db k' db')
    (hretry : ∀ tenantID deliveryID, l = .retryDelivery tenantID deliveryID →
      ∀ t ∈ others, ∀ h ∈ t.2.holds, h.item.id = deliveryID → h.expiresAt ≤ env.now)
    (hrecord : ∀ hold result rest, k = .recording hold result rest → env.now < hold.expiresAt) :
    LeasesSound env.now db' ((l, k') :: others) := by
  cases hstep with
  | elsewhere _ _ before after hl rows =>
    subst before after
    exact leasesSound_of_elsewhere hsound hl rows hretry
  | claimed _ _ _ before after commits =>
    subst before after
    exact leasesSound_of_claim (claimTakes_of_commit commits) hsound
  | unclaimed e before after state =>
    subst before after state
    exact hsound.shrink (List.Sublist.refl [])
  | sent hold rest reply before after state =>
    subst before after
    have hdeliveries : db'.deliveries = db.deliveries := by
      rw [state]
      split <;> rfl
    have hsame : LeasesSound env.now db ((l, .recording hold reply.result rest) :: others) :=
      hsound.shrink (List.Sublist.refl (hold :: rest))
    apply hsame.of_holds
    intro t ht h hh hheld
    refine hheld.update (f := id) ?_ (fun _ ↦ rfl) fun _ _ _ _ hguarded ↦ hguarded
    rw [hdeliveries, List.map_id]
  | recorded _ hold result rest _ before after commits =>
    subst before after
    exact leasesSound_of_record hsound commits (hrecord hold result rest rfl)
  | unrecorded _ _ _ _ _ _ before after state =>
    subst before after state
    exact hsound.shrink (List.nil_sublist _)

/-! ## Histories -/

/-- At every time from the last deed on, the leases are sound. -/
theorem leasesSound_of_history (hhistory : couriers.system.History Init deeds c)
    (hclock : ClockForward (deeds.map Deed.transition)) (hkeeps : ∀ deed ∈ deeds, KeepsLeases deed) :
    ∀ now, (∀ deed ∈ deeds, ∀ t ∈ clock deed.transition, t ≤ now) →
      LeasesSound now c.state c.threads := by
  induction hhistory with
  | nil =>
    exact fun _ _ ↦ ⟨.nil, fun _ ht ↦ absurd ht List.not_mem_nil, fun _ ht ↦ absurd ht List.not_mem_nil⟩
  | @snoc deeds _ _ deed history does ih =>
    intro now hnow
    have hbefore : ∀ t ∈ clock deed.transition, ∀ earlier ∈ deeds, ∀ t' ∈ clock earlier.transition,
        t' ≤ t := by
      intro t ht earlier hearlier t' ht'
      rw [List.map_append] at hclock
      exact (List.pairwise_append.mp hclock).2.2 _ (List.mem_map_of_mem hearlier) _
        (List.mem_map_of_mem List.mem_cons_self) t' ht' t ht
    have hprevious := ih (hclock.sublist ((List.sublist_append_left deeds [deed]).map _))
      fun d hd ↦ hkeeps d (List.mem_append_left _ hd)
    have hdeed := hkeeps deed (by simp)
    cases does.done with
    | start enters _ threads state =>
      have hsound := hprevious now fun d hd ↦ hnow d (List.mem_append_left _ hd)
      rw [state]
      have hnone : deed.control.holds = [] := by
        rw [enters]
        exact holds_start deed.label
      refine (hsound.cons (fun t _ h hh ↦ ?_) ?_ fun h hh ↦ ?_).perm threads.symm
      · exact absurd (hnone ▸ hh) List.not_mem_nil
      · exact hnone ▸ List.nodup_nil
      · exact absurd (hnone ▸ hh) List.not_mem_nil
    | act env _ kind moves before after =>
      have htime : env.now ∈ clock deed.transition := clock_of_act kind
      have hsound := (hprevious env.now (hbefore env.now htime)).perm before
      have hfits := (holds_of_history history _ (before.mem_iff.mpr List.mem_cons_self)).1
      have hstep := (courierStep_of_next hfits moves).1
      have hafter := leasesSound_of_step hsound hstep
        (fun tenantID deliveryID hlabel ↦ hdeed.retry env.now htime deliveryID (by rw [hlabel]; rfl))
        (fun hold result rest hcontrol ↦ hdeed.record env.now htime hold (by rw [hcontrol]; rfl))
      exact (hafter.perm after.symm).later (hnow deed (by simp) env.now htime)
    | crash _ before after state =>
      have hsound := hprevious now fun d hd ↦ hnow d (List.mem_append_left _ hd)
      rw [state, after]
      exact (hsound.perm before).tail

/-- Some time is not before any deed. -/
theorem exists_latest (deeds : List (Deed Op Env DB Courier)) :
    ∃ now, ∀ deed ∈ deeds, ∀ t ∈ clock deed.transition, t ≤ now := by
  induction deeds with
  | nil => exact ⟨0, fun _ hdeed ↦ absurd hdeed List.not_mem_nil⟩
  | cons deed _ ih =>
    obtain ⟨now, hnow⟩ := ih
    refine ⟨max ((clock deed.transition).getD now) now, List.forall_mem_cons.mpr ⟨fun t ht ↦ ?_, ?_⟩⟩
    · rw [Option.mem_def.mp ht]
      exact le_max_left t now
    · exact fun d hd t ht ↦ (hnow d hd t ht).trans (le_max_right _ now)

/-- In every history in which the clock does not go back, operators retry only deliveries without a running
lease and workers record while their leases run: no delivery is held by two workers whose leases overlap.
A claim only returns deliveries whose endpoint is active and not disabled until a later time. -/
theorem delivery_leases_apart {deeds : List (Deed Op Env DB Courier)} {c : Threads Op DB Courier}
    (hhistory : couriers.system.History (fun _ ↦ True) deeds c) :
    (ClockForward (deeds.map Deed.transition) → (∀ deed ∈ deeds, KeepsLeases deed) → LeasesApart c) ∧
      ∀ deed ∈ deeds, ∀ workerID limit env items, deed.kind = .act env →
        claimDueDeliveries workerID limit env deed.before = .ok (items, deed.after) →
        ∀ item ∈ items, TakesDeliveries deed.before env.now item.tenantID item.endpointID := by
  refine ⟨fun hclock hkeeps ↦ ?_, fun deed _ workerID limit env items _ hcommits item hitem ↦ ?_⟩
  · obtain ⟨now, hnow⟩ := exists_latest deeds
    exact (leasesSound_of_history hhistory hclock hkeeps now hnow).apart
  · obtain ⟨_, -, -, -, htakes⟩ := (claimTakes_of_commit hcommits).due item hitem
    exact htakes

instance (t t' : Op × Courier) : Decidable (HeldApart t t') := by
  unfold HeldApart Hold.Apart
  infer_instance

instance (c : Threads Op DB Courier) : Decidable (LeasesApart c) :=
  inferInstanceAs (Decidable (List.Pairwise _ _))

instance (deed : Deed Op Env DB Courier) : Decidable (KeepsLeases deed) :=
  decidable_of_iff' _ (keepsLeases_iff deed)

/-! ### Two workers of the shop -/

/-- A worker claims the first delivery and does nothing more. A second one claims it when the lease of the
first is over. -/
def stalledRun : CourierRun := runCouriers
  (routedScript ++ [.start (.runDeliveries checksum shopClient "worker_1" 1), .go 1 1 (shopFrom 30),
    .start (.runDeliveries checksum shopClient "worker_2" 1),
    .go 2 1 (fun n ↦ { shopFrom 50 n with now := 2 * minute })]) shopSigning

theorem stalled_delivery_held_apart :
    stalledRun.2.threads.map (fun t ↦ t.2.holds.map fun h ↦ (h.item.id, h.claimedAt, h.expiresAt)) =
        [[], [("del_15", 0, minute)], [("del_15", 2 * minute, 3 * minute)]] ∧
      (∀ deed ∈ stalledRun.1, KeepsLeases deed) ∧ LeasesApart stalledRun.2 := by
  have hhistory : couriers.system.History (fun _ ↦ True) stalledRun.1 stalledRun.2 :=
    history_runCouriers trivial
  have hkeeps : ∀ deed ∈ stalledRun.1, KeepsLeases deed := by decide +kernel
  exact ⟨by decide +kernel, hkeeps, (delivery_leases_apart hhistory).1 (by decide +kernel) hkeeps⟩

/-- The event is routed, a worker claims the first delivery, and an operator retries it. A second worker
claims it a second later. -/
def retriedHoldRun : CourierRun := runCouriers
  (routedScript ++ [.start (.runDeliveries checksum shopClient "worker_1" 1), .go 1 1 (shopFrom 30),
    .start (.retryDelivery "t" "del_15"), .go 2 1 (fun _ ↦ shopEnv 40),
    .start (.runDeliveries checksum shopClient "worker_2" 1),
    .go 3 1 (fun n ↦ { shopFrom 50 n with now := second })]) shopSigning

/-- Both workers hold the delivery, for leases that overlap. -/
theorem retried_delivery_held_twice :
    couriers.system.History (fun _ ↦ True) retriedHoldRun.1 retriedHoldRun.2 ∧
      ClockForward (retriedHoldRun.1.map Deed.transition) ∧
      retriedHoldRun.2.threads.map (fun t ↦ t.2.holds.map fun h ↦ (h.item.id, h.claimedAt, h.expiresAt)) =
        [[], [("del_15", 0, minute)], [], [("del_15", second, minute + second)]] ∧
      ¬LeasesApart retriedHoldRun.2 :=
  ⟨history_runCouriers trivial, by decide +kernel, by decide +kernel,
    by decide +kernel⟩

end Webhookery.Delivery
