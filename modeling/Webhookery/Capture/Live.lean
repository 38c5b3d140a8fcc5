import Webhookery.Capture.History

/-!
# Runs of live captures

Any number of `CaptureInbound` calls, each an atomic transaction. A call that fails changes nothing
and leaves no entry.
-/

namespace Webhookery.Capture

open Store Relational Concurrency

/-- A live capture that committed, with the adapter version it read. -/
structure Live where
  env : Env
  input : CaptureInboundInput
  versionID : String
  result : CaptureInboundResult

namespace Live

/-- The index entry of the event. -/
def key (c : Live) : String × String := (c.input.tenantID, c.input.dedupeKey)

def entry (c : Live) : Entry :=
  ⟨captureWrites c.env c.input c.versionID, c.result.eventID, c.result.dedupeStatus⟩

@[simp]
theorem entry_key (c : Live) : c.entry.key = c.key := rfl

end Live

/-- The captures of a history, one after the other. -/
inductive LiveRun (db₀ : DB) : List Live → DB → Prop
  | start : LiveRun db₀ [] db₀
  | commit {history : List Live} {db db' : DB} {env : Env} {input : CaptureInboundInput}
      {result : CaptureInboundResult} (before : LiveRun db₀ history db)
      (commits : captureInbound env input db = .ok (result, db')) :
      LiveRun db₀ (history ++ [⟨env, input, captureVersionID input db, result⟩]) db'

variable {db₀ db : DB} {history : List Live} {calls : List (Env × CaptureInboundInput)}

theorem LiveRun.captures (h : LiveRun db₀ history db) : Captures db₀ (history.map Live.entry) db := by
  induction h with
  | start => exact .start
  | @commit _ db _ env input result _ commits ih =>
    rw [List.map_append, List.map_singleton]
    refine .commit (Live.entry ⟨env, input, captureVersionID input db, result⟩) ih ?_
    simpa only [Live.entry] using (captureInbound_committed commits).1

theorem LiveRun.summarizes (h₀ : NoCaptures db₀) (h : LiveRun db₀ history db) :
    Summarizes (history.map Live.entry) db :=
  h.captures.summarizes h₀

/-- A call returns the identifiers of the rows it wrote. -/
theorem LiveRun.result_ids (h : LiveRun db₀ history db) :
    ∀ c ∈ history, c.result.receiptID = c.env.mustID "rcp" 0 ∧
      c.result.rawPayloadID = c.env.mustID "raw" 0 := by
  induction h with
  | start => exact List.forall_mem_nil _
  | commit _ commits ih => exact forall_mem_snoc.mpr ⟨ih, (captureInbound_committed commits).2⟩

/-- Captures run one after the other, stopping at the first that fails. -/
def captureAll (db : DB) (history : List Live) :
    List (Env × CaptureInboundInput) → Except StoreError (List Live × DB)
  | [] => .ok (history, db)
  | (env, input) :: rest => do
    let (result, db') ← captureInbound env input db
    captureAll db' (history ++ [⟨env, input, captureVersionID input db, result⟩]) rest

theorem liveRun_of_captureAll (hrun : LiveRun db₀ history db)
    (h : captureAll db history calls = .ok (history', db')) : LiveRun db₀ history' db' := by
  induction calls generalizing db history with
  | nil =>
    cases h
    exact hrun
  | cons _ _ ih =>
    obtain ⟨⟨_, _⟩, hcapture, hrest⟩ := bind_eq_ok.mp h
    exact ih (hrun.commit hcapture) hrest

theorem inputs_of_captureAll (h : captureAll db history calls = .ok (history', db')) :
    history'.map (·.input) = history.map (·.input) ++ calls.map Prod.snd := by
  induction calls generalizing db history with
  | nil =>
    cases h
    simp
  | cons _ _ ih =>
    obtain ⟨⟨_, _⟩, -, hrest⟩ := bind_eq_ok.mp h
    rw [ih hrest, List.map_append, List.append_assoc]
    rfl

/-- The call that created the event of a key. -/
def creator (history : List Live) (k : String × String) : Option Live := owner Live.key history k

theorem owner_map_entry (history : List Live) (k : String × String) :
    owner Entry.key (history.map Live.entry) k = (creator history k).map Live.entry :=
  owner_map Live.entry history k

theorem exists_creator (hc : c ∈ history) : ∃ f, creator history c.key = some f ∧ f ∈ history ∧ f.key = c.key := by
  obtain ⟨f, hf⟩ := exists_owner Live.key hc
  exact ⟨f, hf, mem_of_owner hf, key_of_owner hf⟩

section Creator

variable {c f : Live} (hf : creator history c.key = some f)
include hf

/-- The creator of a key is one of the owners of the history. -/
theorem mem_owners_of_creator : f.entry ∈ owners Entry.key (history.map Live.entry) := by
  have hkey : f.key = c.key := key_of_owner hf
  rw [mem_owners_iff, owner_map_entry, Live.entry_key, hkey, hf, Option.map_some]

variable (h₀ : NoCaptures db₀) (h : LiveRun db₀ history db)
include h₀ h

/-- A call ends with the event its creator wrote. -/
theorem eventID_eq_of_creator (hc : c ∈ history) : c.result.eventID = f.env.mustID "evt" 0 := by
  refine (h.summarizes h₀).eventID c.entry (List.mem_map_of_mem hc) f.entry ?_
  rw [owner_map_entry]
  exact congrArg (Option.map Live.entry) hf

theorem event_mem_of_creator : captureEventRow f.env f.input ∈ db.events :=
  (h.summarizes h₀).event_mem (mem_owners_of_creator hf)

/-- The envelope of the creator, when it has one, is the one stored for the event. -/
theorem normalized_mem_of_creator (hn : f.input.normalized = some n) :
    normalizedRow f.env f.input.tenantID (f.env.mustID "evt" 0) f.versionID n f.input.createdAt ∈
      db.normalized := by
  rw [Table.mem_def, (h.summarizes h₀).normalized]
  refine List.mem_flatMap.mpr ⟨f.entry, mem_owners_of_creator hf, ?_⟩
  simp [Live.entry, captureWrites, captureEnvelopeRow, hn]

/-- The outbox row of a new event names that event only. -/
theorem outbox_filter_of_creator :
    db.outbox.rows.filter (fun o ↦ o.kind = .routeEvent ∧ o.resourceID = f.env.mustID "evt" 0) =
      [outboxRow f.env f.input.tenantID .routeEvent (f.env.mustID "evt" 0)] := by
  have hsummary := h.summarizes h₀
  have hfowner := mem_owners_of_creator hf
  apply Table.filter_eq_singleton
  · rw [Table.mem_def, hsummary.outbox]
    exact List.mem_flatMap.mpr ⟨f.entry, hfowner, List.mem_singleton_self _⟩
  · simp [outboxRow]
  · intro o ho hresource
    rw [Table.mem_def, hsummary.outbox] at ho
    obtain ⟨g, hgowner, hog⟩ := List.mem_flatMap.mp ho
    obtain ⟨g, _, rfl⟩ := List.mem_map.mp (mem_of_owner (mem_owners_iff.mp hgowner))
    obtain rfl := List.mem_singleton.mp hog
    have hid : g.env.mustID "evt" 0 = f.env.mustID "evt" 0 := by simpa [outboxRow] using hresource
    have hsame : g.entry = f.entry := hsummary.owner_eq_of_id_eq hgowner hfowner hid
    have houtbox : g.entry.writes.outbox = f.entry.writes.outbox := congrArg (·.writes.outbox) hsame
    exact List.singleton_inj.mp houtbox

/-- The payload of a call, linked to the event its creator wrote. -/
theorem rawPayload_of_creator (hc : c ∈ history) :
    ∃ r ∈ db.rawPayloads,
      r.id = c.result.rawPayloadID ∧ r.body = c.input.body ∧ r.eventID = some (f.env.mustID "evt" 0) := by
  refine ⟨c.entry.raw, ?_, (h.result_ids c hc).2.symm, rfl, ?_⟩
  · rw [Table.mem_def, (h.summarizes h₀).rawPayloads]
    exact List.mem_map_of_mem (List.mem_map_of_mem hc)
  · exact congrArg some (eventID_eq_of_creator hf h₀ h hc)

theorem receipt_of_creator (hc : c ∈ history) :
    ∃ r ∈ db.receipts, r.id = c.result.receiptID ∧ r.rawPayloadID = c.result.rawPayloadID ∧
      r.eventID = f.env.mustID "evt" 0 := by
  obtain ⟨hreceiptID, hrawID⟩ := h.result_ids c hc
  refine ⟨c.entry.receipt, ?_, hreceiptID.symm, hrawID.symm, eventID_eq_of_creator hf h₀ h hc⟩
  rw [Table.mem_def, (h.summarizes h₀).receipts]
  exact List.mem_map_of_mem (List.mem_map_of_mem hc)

theorem event_filter_of_creator :
    db.events.rows.filter (fun e ↦ e.tenantID = c.key.1 ∧ e.dedupeKey = c.key.2) =
      [captureEventRow f.env f.input] := by
  have hkey : f.key = c.key := key_of_owner hf
  have hmem := event_mem_of_creator hf h₀ h
  apply Table.filter_eq_singleton hmem
  · rw [← hkey]
    simp [Live.key, captureEventRow]
  · intro e he hindex
    have hpair : e.tenantID = c.key.1 ∧ e.dedupeKey = c.key.2 := by simpa using hindex
    refine Table.eq_of_index_eq (i := c.key) he hmem (congrArg some (Prod.ext hpair.1 hpair.2)) ?_
    exact congrArg some hkey

theorem countP_unique_of_creator : (history.filter (·.key = c.key)).countP (·.result.dedupeStatus = .unique) = 1 := by
  have hstatus := (h.summarizes h₀).status c.key
  rw [owner_map_entry, hf, List.filter_map, List.countP_map] at hstatus
  exact hstatus

end Creator

/-! ## One event for each key -/

/-- What the captures of one key leave: one event with one `route_event` row, to which the payload
and the receipt of every call are linked, and one call that was not a duplicate. -/
structure CapturedOnce (history : List Live) (db : DB) (k : String × String) (e : Event) : Prop where
  event : db.events.rows.filter (fun e ↦ e.tenantID = k.1 ∧ e.dedupeKey = k.2) = [e]
  outbox : ∃ o, db.outbox.rows.filter (fun o ↦ o.kind = .routeEvent ∧ o.resourceID = e.id) = [o] ∧
    o.tenantID = k.1
  rawPayload : ∀ c ∈ history, c.key = k → ∃ r ∈ db.rawPayloads,
    r.id = c.result.rawPayloadID ∧ r.body = c.input.body ∧ r.eventID = some e.id
  receipt : ∀ c ∈ history, c.key = k → ∃ r ∈ db.receipts,
    r.id = c.result.receiptID ∧ r.rawPayloadID = c.result.rawPayloadID ∧ r.eventID = e.id
  unique : (history.filter (·.key = k)).countP (·.result.dedupeStatus = .unique) = 1
  duplicates : (history.filter (·.key = k)).countP (·.result.dedupeStatus = .duplicateSuppressed) + 1 =
    (history.filter (·.key = k)).length

/-- Every key that was captured has one event. -/
theorem LiveRun.capturedOnce (h₀ : NoCaptures db₀) (h : LiveRun db₀ history db) (hc : c ∈ history) :
    ∃ e, CapturedOnce history db c.key e := by
  obtain ⟨f, hf, -, hkey⟩ := exists_creator hc
  have hf' : ∀ d : Live, d.key = c.key → creator history d.key = some f := fun d hd ↦ hd ▸ hf
  have hunique := countP_unique_of_creator hf h₀ h
  refine ⟨captureEventRow f.env f.input, event_filter_of_creator hf h₀ h,
    ⟨_, outbox_filter_of_creator hf h₀ h, congrArg Prod.fst hkey⟩,
    fun d hd hdk ↦ rawPayload_of_creator (hf' d hdk) h₀ h hd,
    fun d hd hdk ↦ receipt_of_creator (hf' d hdk) h₀ h hd, hunique, ?_⟩
  have hnot : ∀ d : Live, decide (d.result.dedupeStatus = .duplicateSuppressed) =
      decide ¬ decide (d.result.dedupeStatus = .unique) = true := by
    intro d
    cases d.result.dedupeStatus <;> rfl
  rw [List.length_eq_countP_add_countP fun d : Live ↦ decide (d.result.dedupeStatus = .unique),
    hunique, Nat.add_comm]
  simp only [hnot]

end Webhookery.Capture
