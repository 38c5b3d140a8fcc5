import Webhookery.Relational.FirstWriter
import Webhookery.Store.Ingest

/-!
# Histories of captures

A history lists the captures that committed, live or recovered, in commit order. The tables they
write are a function of the history: payloads, receipts and quarantine entries of every entry, and
events, envelopes and outbox rows of the entries that own their dedupe key.
-/

namespace Webhookery.Capture

open Store Relational

/-- A committed capture: the rows it had to write and the event it ended with. -/
structure Entry where
  writes : CaptureWrites
  eventID : String
  status : DedupeStatus

namespace Entry

/-- The index entry of the event. -/
def key (c : Entry) : String × String := (c.writes.event.tenantID, c.writes.event.dedupeKey)

/-- The payload as it is stored, linked to its event. -/
def raw (c : Entry) : RawPayload := { c.writes.raw with eventID := some c.eventID }

def receipt (c : Entry) : Receipt := c.writes.receipt c.eventID

def quarantine (c : Entry) : List QuarantineEntry := c.writes.quarantine c.eventID

end Entry

/-- The captures of a history, one after the other. -/
inductive Captures (db₀ : DB) : List Entry → DB → Prop
  | start : Captures db₀ [] db₀
  | commit {history : List Entry} {db db' : DB} (c : Entry) (before : Captures db₀ history db)
      (committed : c.writes.Committed c.eventID c.status db db') :
      Captures db₀ (history ++ [c]) db'

/-- A database in which nothing was captured yet; its configuration is arbitrary. -/
structure NoCaptures (db : DB) : Prop where
  events : db.events.rows = []
  normalized : db.normalized.rows = []
  outbox : db.outbox.rows = []
  rawPayloads : db.rawPayloads.rows = []
  receipts : db.receipts.rows = []
  quarantine : db.quarantine.rows = []

theorem noCaptures_empty : NoCaptures DB.empty := ⟨rfl, rfl, rfl, rfl, rfl, rfl⟩

/-- The tables of a history. -/
structure Summarizes (history : List Entry) (db : DB) : Prop where
  events : db.events.rows = (owners Entry.key history).map (·.writes.event)
  normalized : db.normalized.rows = (owners Entry.key history).flatMap (·.writes.envelope)
  outbox : db.outbox.rows = (owners Entry.key history).flatMap (·.writes.outbox)
  rawPayloads : db.rawPayloads.rows = history.map Entry.raw
  receipts : db.receipts.rows = history.map Entry.receipt
  quarantine : db.quarantine.rows = history.flatMap Entry.quarantine
  eventID : ∀ c ∈ history, ∀ f, owner Entry.key history c.key = some f → c.eventID = f.writes.event.id
  status : ∀ k, (history.filter (·.key = k)).countP (·.status = .unique) =
    if (owner Entry.key history k).isSome then 1 else 0

variable {history : List Entry} {db₀ db db' : DB}

theorem summarizes_nil (h : NoCaptures db) : Summarizes [] db :=
  { h with eventID := List.forall_mem_nil _, status := fun _ ↦ rfl }

/-- The event of a key is that of the key's owner. -/
theorem Summarizes.byIndex (h : Summarizes history db) (k : String × String) :
    db.events.byIndex k = (owner Entry.key history k).map (·.writes.event) := by
  rw [Table.byIndex, h.events, List.find?_map, ← owner_owners, owner]
  congr 2
  funext c
  exact decide_eq_decide.mpr Option.some_inj

theorem Summarizes.event_mem (h : Summarizes history db)
    (hc : c ∈ owners Entry.key history) : c.writes.event ∈ db.events := by
  exact (Table.mem_map h.events).mpr ⟨_, hc, rfl⟩

/-- The owner of an event is determined by the event's identifier. -/
theorem Summarizes.owner_eq_of_id_eq (h : Summarizes history db)
    (hc : c ∈ owners Entry.key history) (hd : d ∈ owners Entry.key history)
    (hid : c.writes.event.id = d.writes.event.id) : c = d := by
  have hevent : c.writes.event = d.writes.event :=
    Table.eq_of_key_eq (h.event_mem hc) (h.event_mem hd) hid
  have hkey : c.key = d.key := by rw [Entry.key, Entry.key, hevent]
  have howner := mem_owners_iff.mp hc
  rw [hkey, mem_owners_iff.mp hd] at howner
  exact (Option.some.inj howner).symm

/-- The count of entries of a key that were unique, after one more entry. -/
theorem countP_unique_append (c : Entry) (k : String × String) :
    ((history ++ [c]).filter (·.key = k)).countP (·.status = .unique) =
      (history.filter (·.key = k)).countP (·.status = .unique) +
        if c.key = k ∧ c.status = .unique then 1 else 0 := by
  rw [List.filter_append, List.countP_append]
  congr 1
  by_cases hk : c.key = k <;> by_cases hs : c.status = .unique <;> simp [hk, hs]

/-- An entry keeps the event of its key when another one is added. -/
theorem Summarizes.eventID_append (h : Summarizes history db)
    (hc : ∀ f, owner Entry.key (history ++ [c]) c.key = some f → c.eventID = f.writes.event.id) :
    ∀ d ∈ history ++ [c], ∀ f,
      owner Entry.key (history ++ [c]) d.key = some f → d.eventID = f.writes.event.id := by
  intro d hd f hf
  rcases List.mem_append.mp hd with hd | hd
  · obtain ⟨_, hg⟩ := exists_owner Entry.key hd
    rw [owner_append_of_some hg] at hf
    exact h.eventID d hd f (hg.trans hf)
  · obtain rfl := List.mem_singleton.mp hd
    exact hc f hf

/-- A committed capture adds itself to the history. -/
theorem Summarizes.commit (h : Summarizes history db)
    (hw : c.writes.Committed c.eventID c.status db db') : Summarizes (history ++ [c]) db' := by
  have hraw : db'.rawPayloads.rows = (history ++ [c]).map Entry.raw := by
    rw [hw.rawPayloads, h.rawPayloads, List.map_append]
    rfl
  have hreceipts : db'.receipts.rows = (history ++ [c]).map Entry.receipt := by
    rw [hw.receipts, h.receipts, List.map_append]
    rfl
  have hquarantine : db'.quarantine.rows = (history ++ [c]).flatMap Entry.quarantine := by
    rw [hw.quarantine, h.quarantine, List.flatMap_append, List.flatMap_singleton]
    rfl
  have hindex := h.byIndex c.key
  cases hw.resolves with
  | new isNew id free events normalized outbox =>
    have hnone : owner Entry.key history c.key = none := by
      rw [Entry.key, free] at hindex
      simpa [Entry.key] using hindex.symm
    have howners := owners_append_of_none hnone
    refine ⟨?_, ?_, ?_, hraw, hreceipts, hquarantine, h.eventID_append fun f hf ↦ ?_, fun k ↦ ?_⟩
    · rw [events, h.events, howners, List.map_append, List.map_singleton]
    · rw [normalized, h.normalized, howners, List.flatMap_append, List.flatMap_singleton]
    · rw [outbox, h.outbox, howners, List.flatMap_append, List.flatMap_singleton]
    · rw [owner_append_singleton, hnone, if_pos rfl, Option.none_or] at hf
      cases hf
      exact id
    · rw [countP_unique_append, h.status, owner_append_singleton, Option.isSome_or]
      by_cases hk : c.key = k
      · subst hk
        simp [hnone, isNew]
      · simp [hk]
  | duplicate existing isDuplicate id taken events normalized outbox =>
    obtain ⟨f, hf, rfl⟩ : ∃ f, owner Entry.key history c.key = some f ∧ f.writes.event = existing := by
      rw [Entry.key, taken] at hindex
      exact Option.map_eq_some_iff.mp hindex.symm
    have howners := owners_append_of_owner hf
    refine ⟨?_, ?_, ?_, hraw, hreceipts, hquarantine, h.eventID_append fun g hg ↦ ?_, fun k ↦ ?_⟩
    · rw [events, h.events, howners]
    · rw [normalized, h.normalized, howners]
    · rw [outbox, h.outbox, howners]
    · rw [owner_append_of_some hf] at hg
      cases hg
      exact id
    · rw [countP_unique_append, h.status, owner_append_singleton, Option.isSome_or]
      by_cases hk : c.key = k
      · subst hk
        simp [hf, isDuplicate]
      · simp [hk]

/-- The tables after any captures are those of their history. -/
theorem Captures.summarizes (h₀ : NoCaptures db₀) (h : Captures db₀ history db) : Summarizes history db := by
  induction h with
  | start => exact summarizes_nil h₀
  | commit _ _ committed ih => exact ih.commit committed

end Webhookery.Capture
