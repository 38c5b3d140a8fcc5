import Webhookery.Capture.Live

/-!
# Interleaved captures

`CaptureInbound` statement by statement. A transaction sees what other transactions committed and
not what they are writing. The insertion of an event waits while another transaction in flight has
inserted the same index entry; after a conflict the event is looked up by a second statement. The
remaining statements write rows of the transaction's own, which others see when it commits.

Every interleaving has the effect of the committed captures one after the other.
-/

namespace Webhookery.Capture

open Store Relational Concurrency

/-- How far a transaction has come: its event is not tried yet, inserted, known to be there, or
looked up. -/
inductive Phase where
  | began
  | inserted
  | conflicted
  | found (eventID : String)

/-- A transaction in flight. -/
structure Transaction where
  env : Env
  input : CaptureInboundInput
  phase : Phase

namespace Transaction

def key (t : Transaction) : String × String := (t.input.tenantID, t.input.dedupeKey)

/-- The transaction has inserted an index entry that is not committed yet. -/
def Holds (t : Transaction) (k : String × String) : Prop := t.phase = .inserted ∧ t.key = k

/-- What becomes visible when the transaction commits. -/
def commit (t : Transaction) (db : DB) : Except StoreError (CaptureInboundResult × DB) := do
  require (!t.env.connectionFails) .failed
  let db ← insertRawPayload (captureRawRow t.env t.input) db
  match t.phase with
  | .inserted =>
    let db ← captureNewEvent t.env t.input db
    finishCapture t.env t.input (t.env.mustID "evt" 0) .unique db
  | .found eventID => finishCapture t.env t.input eventID .duplicateSuppressed db
  | _ => .error .failed

end Transaction

/-- The committed state, the transactions in flight, and the captures that committed. -/
structure Config where
  db : DB
  inFlight : List Transaction
  history : List Live

/-- One statement of one transaction. -/
inductive Config.Step : Config → Config → Prop
  | begin (db : DB) (ts : List Transaction) (history : List Live) (env : Env)
      (input : CaptureInboundInput) :
      Step ⟨db, ts, history⟩ ⟨db, ts ++ [⟨env, input, .began⟩], history⟩
  | insertEvent (db : DB) (before after : List Transaction) (history : List Live) (env : Env)
      (input : CaptureInboundInput) (accepts : eventAccepts (captureEventRow env input) = true)
      (noWait : ∀ t ∈ before ++ after, ¬ t.Holds (input.tenantID, input.dedupeKey))
      (free : db.events.byIndex (input.tenantID, input.dedupeKey) = none) :
      Step ⟨db, before ++ ⟨env, input, .began⟩ :: after, history⟩
        ⟨db, before ++ ⟨env, input, .inserted⟩ :: after, history⟩
  | conflict (db : DB) (before after : List Transaction) (history : List Live) (env : Env)
      (input : CaptureInboundInput) (existing : Event)
      (accepts : eventAccepts (captureEventRow env input) = true)
      (taken : db.events.byIndex (input.tenantID, input.dedupeKey) = some existing) :
      Step ⟨db, before ++ ⟨env, input, .began⟩ :: after, history⟩
        ⟨db, before ++ ⟨env, input, .conflicted⟩ :: after, history⟩
  | selectEvent (db : DB) (before after : List Transaction) (history : List Live) (env : Env)
      (input : CaptureInboundInput) (existing : Event)
      (taken : db.events.byIndex (input.tenantID, input.dedupeKey) = some existing) :
      Step ⟨db, before ++ ⟨env, input, .conflicted⟩ :: after, history⟩
        ⟨db, before ++ ⟨env, input, .found existing.id⟩ :: after, history⟩
  | commit (db db' : DB) (before after : List Transaction) (history : List Live) (t : Transaction)
      (result : CaptureInboundResult) (commits : t.commit db = .ok (result, db')) :
      Step ⟨db, before ++ t :: after, history⟩
        ⟨db', before ++ after,
          history ++ [⟨t.env, t.input, captureVersionID t.input db, result⟩]⟩
  | rollback (db : DB) (before after : List Transaction) (history : List Live) (t : Transaction) :
      Step ⟨db, before ++ t :: after, history⟩ ⟨db, before ++ after, history⟩

/-- The configurations of all interleavings that start in a state. -/
def Config.Reachable (db₀ : DB) (c : Config) : Prop :=
  Relation.ReflTransGen Config.Step ⟨db₀, [], []⟩ c

/-! ## Simulation -/

/-- What a transaction in flight knows of the committed state. -/
def Transaction.Valid (db : DB) (t : Transaction) : Prop :=
  match t.phase with
  | .began => True
  | .inserted =>
    eventAccepts (captureEventRow t.env t.input) = true ∧ db.events.byIndex t.key = none
  | .conflicted => eventAccepts (captureEventRow t.env t.input) = true
  | .found eventID =>
    eventAccepts (captureEventRow t.env t.input) = true ∧
      ∃ existing, db.events.byIndex t.key = some existing ∧ existing.id = eventID

/-- No two transactions in flight hold the same index entry. -/
def Exclusive (ts : List Transaction) : Prop :=
  ts.Pairwise fun t u ↦ ∀ k, t.Holds k → ¬ u.Holds k

variable {before after : List Transaction} {r : CaptureInboundResult × DB} {t : Transaction}

theorem exclusive_middle :
    Exclusive (before ++ t :: after) ↔
      (∀ u ∈ before ++ after, ∀ k, t.Holds k → ¬ u.Holds k) ∧ Exclusive (before ++ after) := by
  rw [Exclusive, List.pairwise_middle fun h k hu ht ↦ h k ht hu, List.pairwise_cons]
  rfl

/-- A transaction that commits has the effect of `CaptureInbound` on the committed state. -/
theorem captureInbound_of_commit
    (hvalid : t.Valid db) (h : t.commit db = .ok r) : captureInbound t.env t.input db = .ok r := by
  obtain ⟨_, hconnected, h⟩ := bind_eq_ok.mp h
  obtain ⟨db₁, hraw, h⟩ := bind_eq_ok.mp h
  -- the payload is in another table than the events
  have hevents : db₁.events = db.events := by
    obtain ⟨-, _, -, rfl⟩ := insertRawPayload_eq_ok.mp hraw
    rfl
  refine bind_eq_ok.mpr ⟨(), hconnected, bind_eq_ok.mpr ⟨db₁, hraw, bind_eq_ok.mpr ?_⟩⟩
  unfold Transaction.Valid at hvalid
  split at hvalid
  case h_1 hphase => simp [hphase] at h
  case h_2 hphase =>
    obtain ⟨haccepts, hfree⟩ := hvalid
    simp only [hphase] at h
    obtain ⟨db₂, hnew, hfinish⟩ := bind_eq_ok.mp h
    refine ⟨(t.env.mustID "evt" 0, .unique, db₂), ?_, hfinish⟩
    refine bind_eq_ok.mpr ⟨(), require_eq_ok.mpr haccepts, ?_⟩
    rw [hevents, show (t.input.tenantID, t.input.dedupeKey) = t.key from rfl, hfree]
    exact bind_eq_ok.mpr ⟨db₂, hnew, rfl⟩
  case h_3 hphase => simp [hphase] at h
  case h_4 hphase =>
    obtain ⟨haccepts, existing, htaken, rfl⟩ := hvalid
    simp only [hphase] at h
    refine ⟨(existing.id, .duplicateSuppressed, db₁), ?_, h⟩
    refine bind_eq_ok.mpr ⟨(), require_eq_ok.mpr haccepts, ?_⟩
    rw [hevents, show (t.input.tenantID, t.input.dedupeKey) = t.key from rfl, htaken]
    rfl

/-- A transaction that commits a new event held its index entry. -/
theorem Transaction.holds_of_commit
    (hvalid : t.Valid db) (h : t.commit db = .ok r) (hfree : db.events.byIndex t.key = none) :
    t.Holds t.key := by
  obtain ⟨_, -, h⟩ := bind_eq_ok.mp h
  obtain ⟨_, -, h⟩ := bind_eq_ok.mp h
  unfold Transaction.Valid at hvalid
  split at hvalid
  case h_1 hphase => simp [hphase] at h
  case h_2 hphase => exact ⟨hphase, rfl⟩
  case h_3 hphase => simp [hphase] at h
  case h_4 =>
    obtain ⟨-, _, htaken, -⟩ := hvalid
    cases hfree.symm.trans htaken

/-- What another transaction knows stays true when one commits. -/
theorem Transaction.Valid.commit {db db' : DB} {t u : Transaction} {result : CaptureInboundResult}
    (ht : t.Valid db) (h : t.commit db = .ok (result, db'))
    (hexclusive : ∀ k, t.Holds k → ¬ u.Holds k) (hu : u.Valid db) : u.Valid db' := by
  have hwrites := (captureInbound_committed (captureInbound_of_commit ht h)).1
  -- an index entry that is taken stays taken, one that `u` holds stays free
  have htaken : ∀ existing, db.events.byIndex u.key = some existing →
      db'.events.byIndex u.key = some existing := by
    intro existing hexisting
    cases hwrites.resolves with
    | new _ _ _ events =>
      rw [Table.byIndex_append events, hexisting, Option.some_or]
    | duplicate _ _ _ _ events => rw [events, hexisting]
  have hfree : u.phase = .inserted → db.events.byIndex u.key = none →
      db'.events.byIndex u.key = none := by
    intro hphase hnone
    cases hwrites.resolves with
    | new _ _ free events =>
      have hne : t.key ≠ u.key := fun hkey ↦
        hexclusive u.key (hkey ▸ t.holds_of_commit ht h free) ⟨hphase, rfl⟩
      rw [Table.byIndex_append events, hnone, Option.none_or]
      exact if_neg fun hindex ↦ hne (Option.some.inj hindex)
    | duplicate _ _ _ _ events => rw [events, hnone]
  unfold Transaction.Valid at hu ⊢
  split at hu
  case h_1 => trivial
  case h_2 hphase => exact ⟨hu.1, hfree hphase hu.2⟩
  case h_3 => exact hu
  case h_4 =>
    obtain ⟨haccepts, existing, hexisting, hid⟩ := hu
    exact ⟨haccepts, existing, htaken existing hexisting, hid⟩

/-- The committed state is that of the captures one after the other. -/
structure Config.Inv (db₀ : DB) (c : Config) : Prop where
  run : LiveRun db₀ c.history c.db
  valid : ∀ t ∈ c.inFlight, t.Valid c.db
  exclusive : Exclusive c.inFlight

/-- A transaction that moves to another phase. -/
theorem Config.Inv.move {db₀ db : DB} {history : List Live}
    {t t' : Transaction} (h : Config.Inv db₀ ⟨db, before ++ t :: after, history⟩)
    (hvalid : t'.Valid db) (hholds : ∀ u ∈ before ++ after, ∀ k, t'.Holds k → ¬ u.Holds k) :
    Config.Inv db₀ ⟨db, before ++ t' :: after, history⟩ where
  run := h.run
  valid := forall_mem_middle.mpr ⟨hvalid, (forall_mem_middle.mp h.valid).2⟩
  exclusive := exclusive_middle.mpr ⟨hholds, (exclusive_middle.mp h.exclusive).2⟩

theorem Config.Inv.step {db₀ : DB} {c c' : Config} (h : Config.Inv db₀ c)
    (hstep : Config.Step c c') : Config.Inv db₀ c' := by
  cases hstep with
  | begin =>
    refine ⟨h.run, forall_mem_snoc.mpr ⟨h.valid, trivial⟩, ?_⟩
    refine exclusive_middle.mpr ⟨fun u _ k hk ↦ ?_, by simpa using h.exclusive⟩
    cases hk.1
  | insertEvent _ _ _ _ _ _ accepts noWait free =>
    refine h.move ⟨accepts, free⟩ fun u hu k hk ↦ ?_
    obtain rfl := hk.2
    exact noWait u hu
  | conflict _ _ _ _ _ _ _ accepts =>
    exact h.move accepts fun u _ k hk ↦ by cases hk.1
  | selectEvent _ _ _ _ _ _ existing taken =>
    have hconflicted := (forall_mem_middle.mp h.valid).1
    exact h.move ⟨hconflicted, existing, taken, rfl⟩ fun u _ k hk ↦ by cases hk.1
  | commit _ _ _ _ _ _ _ commits =>
    obtain ⟨ht, hothers⟩ := forall_mem_middle.mp h.valid
    obtain ⟨hholds, hexclusive⟩ := exclusive_middle.mp h.exclusive
    refine ⟨h.run.commit (captureInbound_of_commit ht commits), fun u hu ↦ ?_, hexclusive⟩
    exact ht.commit commits (hholds u hu) (hothers u hu)
  | rollback =>
    exact ⟨h.run, (forall_mem_middle.mp h.valid).2, (exclusive_middle.mp h.exclusive).2⟩

/-- Every interleaving commits captures one after the other. -/
theorem Config.Reachable.liveRun (h : Config.Reachable db₀ c) : LiveRun db₀ c.history c.db := by
  suffices hinv : Config.Inv db₀ c from hinv.run
  induction h with
  | refl => exact ⟨.start, List.forall_mem_nil _, List.Pairwise.nil⟩
  | tail _ hstep ih => exact ih.step hstep

/-- A capture that commits on its own goes through the phases of its transaction. -/
theorem commit_of_captureInbound (h : captureInbound env input db = .ok r) :
    eventAccepts (captureEventRow env input) = true ∧
      ((db.events.byIndex (input.tenantID, input.dedupeKey) = none ∧
          Transaction.commit ⟨env, input, .inserted⟩ db = .ok r) ∨
        ∃ existing, db.events.byIndex (input.tenantID, input.dedupeKey) = some existing ∧
          Transaction.commit ⟨env, input, .found existing.id⟩ db = .ok r) := by
  obtain ⟨_, hconnected, h⟩ := bind_eq_ok.mp h
  obtain ⟨db₁, hraw, h⟩ := bind_eq_ok.mp h
  have hevents : db₁.events = db.events := by
    obtain ⟨-, _, -, rfl⟩ := insertRawPayload_eq_ok.mp hraw
    rfl
  obtain ⟨⟨_, _, _⟩, hevent, hfinish⟩ := bind_eq_ok.mp h
  obtain ⟨_, haccepts, hevent⟩ := bind_eq_ok.mp hevent
  refine ⟨require_eq_ok.mp haccepts, ?_⟩
  rw [hevents] at hevent
  split at hevent
  case h_1 existing htaken =>
    cases hevent
    exact .inr ⟨existing, htaken, bind_eq_ok.mpr ⟨(), hconnected, bind_eq_ok.mpr ⟨_, hraw, hfinish⟩⟩⟩
  case h_2 hfree =>
    obtain ⟨_, hnew, hresult⟩ := bind_eq_ok.mp hevent
    cases hresult
    exact .inl ⟨hfree, bind_eq_ok.mpr ⟨(), hconnected, bind_eq_ok.mpr
      ⟨_, hraw, bind_eq_ok.mpr ⟨_, hnew, hfinish⟩⟩⟩⟩

/-- Captures one after the other are one of the interleavings. -/
theorem LiveRun.reachable (h : LiveRun db₀ history db) : Config.Reachable db₀ ⟨db, [], history⟩ := by
  induction h with
  | start => exact .refl
  | @commit history db db' env input result _ commits ih =>
    have hbegan := ih.tail (.begin db [] history env input)
    obtain ⟨haccepts, ⟨hfree, hcommit⟩ | ⟨existing, htaken, hcommit⟩⟩ :=
      commit_of_captureInbound commits
    · have hinserted := hbegan.tail
        (.insertEvent db [] [] history env input haccepts (by simp) hfree)
      exact hinserted.tail (.commit db db' [] [] history _ result hcommit)
    · have hconflicted := hbegan.tail
        (.conflict db [] [] history env input existing haccepts htaken)
      have hfound := hconflicted.tail (.selectEvent db [] [] history env input existing htaken)
      exact hfound.tail (.commit db db' [] [] history _ result hcommit)

/-- In every interleaving of captures, each call that committed has a payload and a receipt of its
own, and each key that was captured has one event. -/
theorem interleaved_captures_dedupe {db₀ : DB} {c : Config} (h₀ : NoCaptures db₀)
    (h : Config.Reachable db₀ c) :
    (c.history.map (·.result.rawPayloadID)).Nodup ∧ (c.history.map (·.result.receiptID)).Nodup ∧
      ∀ d ∈ c.history, ∃ e, CapturedOnce c.history c.db d.key e := by
  have hrun := h.liveRun
  have hsummary := hrun.summarizes h₀
  refine ⟨?_, ?_, fun d hd ↦ hrun.capturedOnce h₀ hd⟩
  · have hnodup := c.db.rawPayloads.key_nodup
    rw [hsummary.rawPayloads, List.map_map, List.map_map] at hnodup
    rwa [List.map_congr_left fun d hd ↦ (hrun.result_ids d hd).2]
  · have hnodup := c.db.receipts.key_nodup
    rw [hsummary.receipts, List.map_map, List.map_map] at hnodup
    rwa [List.map_congr_left fun d hd ↦ (hrun.result_ids d hd).1]

def orderEnv (token : String) : Env := ⟨0, fun _ _ ↦ token, false, fun _ _ _ ↦ none⟩

def orderInput : CaptureInboundInput where
  tenantID := "t"
  sourceID := "src_1"
  provider := "acme"
  adapter := "acme"
  body := [0x7b, 0x7d]
  sha256 := "sha256:00"
  contentType := "application/json"
  createdAt := 0
  rawHeaders := []
  remoteIP := "192.0.2.1"
  receivedAt := 0
  eventType := "order.created"
  providerEventID := "e1"
  dedupeKey := "acme:t:src_1:e1"
  normalized := none
  verificationOK := false
  verifyReason := "missing_signature"

/-- Two captures of one key. -/
theorem interleaved_captures_dedupe_twice :
    ∃ history db, history.length = 2 ∧ Config.Reachable DB.empty ⟨db, [], history⟩ ∧
      (history.map (·.result.rawPayloadID)).Nodup ∧ (history.map (·.result.receiptID)).Nodup ∧
        ∀ d ∈ history, ∃ e, CapturedOnce history db d.key e := by
  obtain ⟨⟨history, db⟩, hcaptures, hlength⟩ :
      ∃ r, captureAll DB.empty [] [(orderEnv "1", orderInput), (orderEnv "2", orderInput)] = .ok r ∧ r.1.length = 2 := by
    decide +kernel
  have hreachable : Config.Reachable DB.empty ⟨db, [], history⟩ :=
    (liveRun_of_captureAll .start hcaptures).reachable
  exact ⟨history, db, hlength, hreachable,
    interleaved_captures_dedupe noCaptures_empty hreachable⟩

end Webhookery.Capture
