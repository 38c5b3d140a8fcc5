import Webhookery.Delivery.RoutedOnce

/-!
# Leases on outbox rows

A worker that claims an outbox row has it for the time of its lease. Completing a row does not ask who
holds it, and a worker may complete a row when its lease is over. The lease counts from `now()`, the time at
which the transaction began, which may have waited before it commits. By a clock of the commits that does not
go back, no row is handed out a second time before the lease of its last claim is over, and a completed row is
never handed out again.
-/

namespace Webhookery.Delivery

open Go Concurrency Store App Machine

variable {l : Op} {q q' : Phase} {env : Env} {db db' : DB} {outboxID : String} {expiry now now₁ now₂ : Time}
  {e : Transition Op Env DB} {events : List (Transition Op Env DB)} {c c' : Threads Op DB Phase} {o : OutboxRow}

/-! ## Rows -/

/-- A row is pending, in progress with a holder and the end of its lease, or completed. -/
def Leased (o : OutboxRow) : Prop :=
  o.state = .pending ∨
    (o.state = .inProgress ∧ o.lockedBy.isSome = true ∧ o.lockExpiresAt.isSome = true) ∨
    o.state = .completed

instance (o : OutboxRow) : Decidable (Leased o) := inferInstanceAs (Decidable (_ ∨ _))

/-- All rows of the outbox are leased. -/
def OutboxLeased (db : DB) : Prop := ∀ o ∈ db.outbox, Leased o

theorem leased_released (h : Leased o) : Leased (o.released now) := by
  unfold OutboxRow.released
  split
  · exact .inl rfl
  · exact h

theorem leased_claimUpdate (h : Leased o) : Leased (claimUpdate workerID now claimedIDs o) := by
  unfold claimUpdate
  split
  · exact .inr (.inl ⟨rfl, rfl, rfl⟩)
  · exact leased_released h

theorem outboxLeased_of_act (h : Act l q env db q' db') (hleased : OutboxLeased db) : OutboxLeased db' := by
  cases outboxStep_of_act h with
  | appended _ outbox pending =>
    intro o ho
    have hrows : o ∈ db'.outbox.rows := ho
    rw [outbox, List.mem_append] at hrows
    rcases hrows with ho | ho
    · exact hleased o ho
    · exact .inl (pending o ho)
  | claimed _ _ _ _ _ _ _ _ commits =>
    cases commits
    intro o ho
    obtain ⟨o, hrow, rfl⟩ := List.mem_map.mp ho
    exact leased_claimUpdate (hleased o hrow)
  | finished _ _ _ _ commits =>
    cases commits
    intro o ho
    obtain ⟨o, hrow, rfl⟩ := List.mem_map.mp ho
    split
    · exact .inr (.inr rfl)
    · exact hleased o hrow

/-! ## Rows that are not handed out -/

/-- The row is completed, or in progress until the time at least. -/
def Reserved (expiry : Time) (o : OutboxRow) : Prop :=
  o.state = .completed ∨ (o.state = .inProgress ∧ ∃ t, o.lockExpiresAt = some t ∧ expiry ≤ t)

theorem Reserved.not_pending (h : Reserved expiry o) : o.state ≠ .pending := by
  rcases h with h | ⟨h, -⟩ <;> simp [h]

theorem Reserved.not_expired (h : Reserved expiry o) (hnow : now < expiry) : ¬o.Expired now := by
  rintro ⟨hstate, hexpired⟩
  rcases h with h | ⟨-, t, ht, hle⟩
  · exact absurd (h.symm.trans hstate) (by decide)
  · rw [ht] at hexpired
    simp only [Option.any_some, decide_eq_true_eq] at hexpired
    exact absurd (hle.trans hexpired) (Int.not_le.mpr hnow)

/-- A claim before the time leaves a reserved row alone. -/
theorem claimUpdate_of_reserved (workerID : String) (limit : Nat)
    (ho : o ∈ db.outbox) (h : Reserved expiry o) (hnow : now < expiry) :
    claimUpdate workerID now
      ((claimedRows now limit (db.outbox.rows.map (OutboxRow.released now))).map OutboxRow.id) o = o := by
  have hreleased := released_of_not_expired (h.not_expired hnow)
  unfold claimUpdate
  rw [if_neg, hreleased]
  intro hcontains
  obtain ⟨_, hclaimed, hid⟩ := List.mem_map.mp (List.contains_iff_mem.mp hcontains)
  have hcandidate := List.mem_filter.mp ((List.mem_insertionSort _).mp (List.mem_of_mem_take hclaimed))
  obtain ⟨o', ho', rfl⟩ := List.mem_map.mp hcandidate.1
  have hsame : o' = o := by
    apply db.outbox.eq_of_key_eq ho' ho
    exact (congrArg OutboxItem.id (released_item now o')).symm.trans hid
  have hpending := hcandidate.2
  rw [hsame, hreleased] at hpending
  simp only [OutboxRow.claimable, Bool.and_eq_true, beq_iff_eq] at hpending
  exact h.not_pending hpending.1

/-- The row with the identifier is reserved. -/
def RowReserved (expiry : Time) (outboxID : String) (db : DB) : Prop :=
  ∃ o ∈ db.outbox, o.id = outboxID ∧ Reserved expiry o

theorem rowReserved_of_act (h : Act l q env db q' db') (hreserved : RowReserved expiry outboxID db)
    (hnow : env.now < expiry) : RowReserved expiry outboxID db' := by
  obtain ⟨o, ho, hid, hrow⟩ := hreserved
  cases outboxStep_of_act h with
  | appended rows outbox =>
    have ho' : o ∈ db'.outbox.rows := outbox ▸ List.mem_append_left rows ho
    exact ⟨o, ho', hid, hrow⟩
  | claimed _ _ workerID limit _ _ _ _ commits =>
    cases commits
    have hsame :=
      claimUpdate_of_reserved workerID (if limit ≤ 0 then 10 else limit.toNat) ho hrow hnow
    exact ⟨o, hsame ▸ List.mem_map_of_mem ho, hid, hrow⟩
  | finished _ _ _ _ commits =>
    cases commits
    refine ⟨_, List.mem_map_of_mem ho, ?_, ?_⟩
    · split <;> exact hid
    · split
      · exact .inl rfl
      · exact hrow

theorem Reserved.mono (h : Reserved expiry' o) (hle : expiry ≤ expiry') : Reserved expiry o := by
  rcases h with h | ⟨hstate, t, ht, hexpiry⟩
  · exact .inl h
  · exact .inr ⟨hstate, t, ht, hle.trans hexpiry⟩

/-- The row is not handed out at any time. -/
def RowCompleted (outboxID : String) (db : DB) : Prop := ∀ expiry, RowReserved expiry outboxID db

theorem rowCompleted_of_act (h : Act l q env db q' db') (hcompleted : RowCompleted outboxID db) :
    RowCompleted outboxID db' := by
  intro expiry
  have hlater : env.now < max expiry (env.now + 1) := lt_max_of_lt_right (Int.lt_succ env.now)
  obtain ⟨o, ho, hid, hreserved⟩ := rowReserved_of_act h (hcompleted _) hlater
  exact ⟨o, ho, hid, hreserved.mono (le_max_left expiry _)⟩

/-! ## Claims in a run -/

/-- The transition is a claim that hands out the row, at the time. -/
def HandsOut (e : Transition Op Env DB) (now : Time) (outboxID : String) : Prop :=
  ∃ workerID limit env items, e.kind = .act env ∧ env.now = now ∧
    claimOutbox workerID limit env e.before = .ok (items, e.after) ∧ outboxID ∈ items.map OutboxItem.id

/-- A claimed row is in progress until the lease is over. -/
theorem rowReserved_of_handsOut (h : HandsOut e now outboxID) : RowReserved (now + leaseTime) outboxID e.after := by
  obtain ⟨_, _, _, _, -, rfl, hclaim, hid⟩ := h
  obtain ⟨_, hitem, rfl⟩ := List.mem_map.mp hid
  obtain ⟨-, -, -, -, o, ho, rfl, hstate, hexpires⟩ := row_of_claimOutbox hclaim hitem
  exact ⟨o, ho, rfl, .inr ⟨hstate, _, hexpires, le_rfl⟩⟩

theorem not_handsOut_of_reserved (h : RowReserved expiry outboxID e.before) (hnow : now < expiry) :
    ¬HandsOut e now outboxID := by
  rintro ⟨_, _, _, _, -, rfl, hclaim, hid⟩
  obtain ⟨_, hitem, rfl⟩ := List.mem_map.mp hid
  obtain ⟨o', ho', rfl, hpending, -⟩ := row_of_claimOutbox hclaim hitem
  obtain ⟨o, ho, hsame, hreserved⟩ := h
  obtain rfl : o = o' := e.before.outbox.eq_of_key_eq ho ho' hsame
  rw [released_of_not_expired (hreserved.not_expired hnow)] at hpending
  exact hreserved.not_pending hpending

/-- The time of an action, `now()`: when its transaction began. -/
def clock (e : Transition Op Env DB) : Option Time :=
  match e.kind with
  | .act env => some env.now
  | _ => none

theorem clock_of_act (h : e.kind = .act env) : clock e = some env.now := by
  rw [clock, h]

/-- The transactions began in the order in which they committed: `now()`, the time of `BEGIN`, does not go back. -/
def ClockForward (events : List (Transition Op Env DB)) : Prop :=
  events.Pairwise fun e e' ↦ ∀ now ∈ clock e, ∀ now' ∈ clock e', now ≤ now'

instance : Decidable (ClockForward events) := inferInstanceAs (Decidable (List.Pairwise _ _))

/-- Transitions with the times of their commits. The clock does not go back, and no transaction began after its
commit, but transactions may commit in another order than they began. -/
structure CommitClock (timed : List (Transition Op Env DB × Time)) : Prop where
  forward : timed.Pairwise fun x y ↦ x.2 ≤ y.2
  begun : ∀ x ∈ timed, ∀ now ∈ clock x.1, now ≤ x.2

/-- A transition of the machine keeps what all acts keep. -/
theorem kept_of_step {I : DB → Prop} (h : machine.Step c e c')
    (hact : ∀ l q env q', e.kind = .act env → Act l q env c.state q' c'.state → I c.state → I c'.state)
    (hI : I c.state) : I c'.state := by
  rcases exists_act_of_step h with hsame | ⟨l, _, q, env, q', -, -, rfl, hstep⟩
  · exact hsame ▸ hI
  · exact hact l q env q' rfl hstep hI

theorem rowReserved_of_path (hpath : machine.Path c events c')
    (hreserved : RowReserved expiry outboxID c.state)
    (hnow : ∀ e ∈ events, ∀ env, e.kind = .act env → env.now < expiry) :
    RowReserved expiry outboxID c'.state :=
  hpath.invariant (fun c ↦ RowReserved expiry outboxID c.state)
    (fun _ _ _ hI hbefore hstep ↦ kept_of_step hstep
      (fun _ _ env _ hkind hact hI ↦ rowReserved_of_act hact hI (hbefore env hkind)) hI) hnow hreserved

theorem rowCompleted_of_path (hpath : machine.Path c events c')
    (hcompleted : RowCompleted outboxID c.state) : RowCompleted outboxID c'.state :=
  hpath.invariant (fun c ↦ RowCompleted outboxID c.state)
    (fun _ _ _ hI (_ : True) hstep ↦ kept_of_step hstep (fun _ _ _ _ _ hact hI ↦ rowCompleted_of_act hact hI) hI)
    (fun _ _ ↦ trivial) hcompleted

/-- Between two claims of one row the lease of the first ends: the second one commits after it. -/
theorem lease_over {rest : List (Transition Op Env DB × Time)} (hstep : machine.Step c e₁ c')
    (hpath : machine.Path c' (rest.map Prod.fst) c'') (hclock : CommitClock rest) (hmem : (e₂, t₂) ∈ rest)
    (h₁ : HandsOut e₁ now₁ outboxID) (h₂ : HandsOut e₂ now₂ outboxID) : now₁ + leaseTime ≤ t₂ := by
  have hbegun : now₂ ≤ t₂ := by
    obtain ⟨-, -, _, -, hkind, rfl, -⟩ := h₂
    exact hclock.begun _ hmem _ (clock_of_act hkind)
  obtain ⟨mid, _, rfl⟩ := List.append_of_mem hmem
  rw [List.map_append, List.map_cons] at hpath
  obtain ⟨_, _, hmid, hclaim, -⟩ := hpath.split
  by_contra hsooner
  have htime : t₂ < now₁ + leaseTime := Int.not_le.mp hsooner
  -- whatever commits in between began before the second claim commits
  have hbefore : ∀ e ∈ mid.map Prod.fst, ∀ env, e.kind = .act env → env.now < now₁ + leaseTime := by
    intro _ he env hkind
    obtain ⟨x, hx, rfl⟩ := List.mem_map.mp he
    have hnow := hclock.begun x (List.mem_append_left _ hx) env.now (clock_of_act hkind)
    have hcommit := (List.pairwise_append.mp hclock.forward).2.2 x hx _ List.mem_cons_self
    exact (hnow.trans hcommit).trans_lt htime
  have hreserved := rowReserved_of_handsOut h₁
  rw [hstep.after_eq] at hreserved
  have hheld := rowReserved_of_path hmid hreserved hbefore
  rw [← hclaim.before_eq] at hheld
  exact not_handsOut_of_reserved hheld (hbegun.trans_lt htime) h₂

/-- By a clock of the commits that does not go back: every row of the outbox is pending, in progress with a
holder and the end of its lease, or completed; a row that was handed out is not handed out again before the lease
is over, whoever completes it and when; and a completed row is never handed out again. -/
theorem outbox_leases_exclusive {timed : List (Transition Op Env DB × Time)} {c : Threads Op DB (Work Unit)}
    (hrun : App.system.Run OutboxLeased (timed.map Prod.fst) c) (hclock : CommitClock timed) :
    OutboxLeased c.state ∧
      ∀ before e₁ t₁ rest, timed = before ++ (e₁, t₁) :: rest → ∀ outboxID,
        (∀ now₁, HandsOut e₁ now₁ outboxID → ∀ e₂ t₂, (e₂, t₂) ∈ rest → ∀ now₂, HandsOut e₂ now₂ outboxID →
          now₁ + leaseTime ≤ t₂) ∧
        ((∃ o ∈ e₁.before.outbox, o.id = outboxID ∧ o.state = .completed) →
          ∀ e₂ t₂, (e₂, t₂) ∈ (e₁, t₁) :: rest → ∀ now₂, ¬HandsOut e₂ now₂ outboxID) := by
  obtain ⟨ts, hmachine, -⟩ := Machine.simulation.run hrun
  refine ⟨invariant_of_acts (fun _ h ↦ h) (fun _ _ _ _ _ _ hI hact ↦ outboxLeased_of_act hact hI) hrun, ?_⟩
  rintro _ e₁ t₁ rest rfl outboxID
  rw [List.map_append, List.map_cons] at hmachine
  obtain ⟨c₁, _, -, hstep, hpath⟩ := hmachine.split
  refine ⟨fun now₁ h₁ e₂ t₂ he₂ now₂ h₂ ↦ ?_, fun hcompleted e₂ t₂ he₂ now₂ ↦ ?_⟩
  · have hrest : CommitClock rest := by
      refine ⟨(List.pairwise_append.mp hclock.forward).2.1.tail, fun x hx ↦ hclock.begun x ?_⟩
      exact List.mem_append_right _ (List.mem_cons_of_mem _ hx)
    exact lease_over hstep hpath hrest he₂ h₁ h₂
  · obtain ⟨o, ho, hid, hstate⟩ := hcompleted
    have hfirst : RowCompleted outboxID e₁.before := fun expiry ↦ ⟨o, ho, hid, .inl hstate⟩
    obtain ⟨mid, after, hsplit⟩ := List.append_of_mem (List.mem_map_of_mem (f := Prod.fst) he₂)
    have hall : machine.Path c₁ (mid ++ e₂ :: after) ⟨c.state, ts⟩ :=
      hsplit ▸ (System.Path.single hstep).append hpath
    obtain ⟨_, _, hmid, hclaim, -⟩ := hall.split
    have hlast := rowCompleted_of_path hmid (hstep.before_eq ▸ hfirst)
    rw [← hclaim.before_eq] at hlast
    exact not_handsOut_of_reserved (hlast (now₂ + 1)) (Int.lt_succ now₂)

/-- Every transaction takes a second. -/
def crashedTimes : List (Transition Op Env DB × Time) := crashedRun.1.map fun e ↦ (e, (clock e).getD 0 + second)

/-- The claim of the worker that crashes, and what follows it. -/
def firstClaim : Transition Op Env DB × Time := crashedTimes.get ⟨1, by decide +kernel⟩

def afterFirstClaim : List (Transition Op Env DB × Time) := crashedTimes.drop 2

/-- The claim of the second worker. -/
def secondClaim : Transition Op Env DB × Time := afterFirstClaim.get ⟨9, by decide +kernel⟩

/-- The second worker claims the row when the lease of the first one is over. -/
theorem crashed_row_claimed_after_lease :
    crashedTimes = crashedTimes.take 1 ++ firstClaim :: afterFirstClaim ∧
      HandsOut firstClaim.1 0 "out_5" ∧ HandsOut secondClaim.1 (2 * leaseTime) "out_5" ∧
      0 + leaseTime ≤ secondClaim.2 := by
  have hrun : App.system.Run OutboxLeased (crashedTimes.map Prod.fst) crashedRun.2 := by
    rw [crashedTimes, List.map_map, Function.comp_def, List.map_id']
    exact run_runScript (by unfold OutboxLeased; decide +kernel)
  have hclock : CommitClock crashedTimes := ⟨by decide +kernel, by decide +kernel⟩
  have hsplit : crashedTimes = crashedTimes.take 1 ++ firstClaim :: afterFirstClaim := rfl
  have hfirst : HandsOut firstClaim.1 0 "out_5" :=
    ⟨"worker_1", 10, shopEnv 10, _, rfl, rfl, rfl, by decide +kernel⟩
  have hsecond : HandsOut secondClaim.1 (2 * leaseTime) "out_5" :=
    ⟨"worker_2", 10, { shopEnv 30 with now := 2 * leaseTime }, _, rfl, rfl, rfl, by decide +kernel⟩
  have hexclusive := (outbox_leases_exclusive hrun hclock).2 _ _ _ afterFirstClaim hsplit "out_5"
  exact ⟨hsplit, hfirst, hsecond, hexclusive.1 0 hfirst secondClaim.1 secondClaim.2 (List.get_mem _ _) _ hsecond⟩

end Webhookery.Delivery
