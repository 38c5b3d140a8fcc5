import Webhookery.Store.Ingest

/-!
# Quarantine decisions

An open entry is approved or rejected once. An approval may route the event of the entry again.
-/

namespace Webhookery.Store

open Relational

/-- `UPDATE quarantine_entries SET state ... WHERE state='open' RETURNING event_id`. -/
def decideQuarantine (tenantID entryID : String) (decision : QuarantineState) (db : DB) :
    Except StoreError (String × DB) := do
  let entry ← selectRow db.quarantine fun q ↦
    q.tenantID == tenantID && q.id == entryID && q.state == .opened
  return (entry.eventID, { db with
    quarantine := db.quarantine.modify
      (fun q ↦
        if q.tenantID = tenantID ∧ q.id = entryID ∧ q.state = .opened then { q with state := decision }
        else q)
      (fun q ↦ by split <;> rfl) (fun _ ↦ rfl) })

def approveQuarantine (env : Env) (tenantID entryID reason : String) (routeAfterRelease : Bool)
    (db : DB) : Except StoreError DB := do
  require (reason != "") (.invalidInput "reason is required")
  let (eventID, db) ← decideQuarantine tenantID entryID .approved db
  if routeAfterRelease ∧ eventID ≠ "" then insertOutbox env tenantID .routeEvent eventID db
  else .ok db

def rejectQuarantine (tenantID entryID reason : String) (db : DB) : Except StoreError DB := do
  require (reason != "") (.invalidInput "reason is required")
  let (_, db) ← decideQuarantine tenantID entryID .rejected db
  return db

variable {env : Env} {tenantID entryID reason : String} {routeAfterRelease : Bool} {db db' : DB}

theorem decideQuarantine_eq_ok (h : decideQuarantine tenantID entryID decision db = .ok (eventID, db')) :
    ∃ q ∈ db.quarantine, q.tenantID = tenantID ∧ q.id = entryID ∧ q.state = .opened ∧
      q.eventID = eventID ∧ db' = { db with quarantine := db'.quarantine } := by
  obtain ⟨q, hq, hrest⟩ := bind_eq_ok.mp h
  cases hrest
  obtain ⟨hmem, hp⟩ := mem_of_selectRow hq
  simp only [Bool.and_eq_true, beq_iff_eq] at hp
  exact ⟨q, hmem, hp.1.1, hp.1.2, hp.2, rfl, rfl⟩

/-- An approval writes at most one `route_event` row, for the event of an entry that was open. -/
theorem approveQuarantine_eq_ok
    (h : approveQuarantine env tenantID entryID reason routeAfterRelease db = .ok db') :
    ∃ q ∈ db.quarantine, q.tenantID = tenantID ∧ q.id = entryID ∧ q.state = .opened ∧
      db'.outbox.rows = db.outbox.rows ++ (if routeAfterRelease ∧ q.eventID ≠ "" then
        [outboxRow env tenantID .routeEvent q.eventID] else []) ∧
      db' = { db with quarantine := db'.quarantine, outbox := db'.outbox } := by
  obtain ⟨_, -, h⟩ := bind_eq_ok.mp h
  obtain ⟨⟨_, _⟩, hdecide, h⟩ := bind_eq_ok.mp h
  obtain ⟨q, hq, htenant, hid, hstate, rfl, hframe⟩ := decideQuarantine_eq_ok hdecide
  refine ⟨q, hq, htenant, hid, hstate, ?_⟩
  dsimp only at h
  split at h
  case isTrue hroute =>
    obtain ⟨_, hout, rfl⟩ := insertOutbox_eq_ok.mp h
    rw [if_pos hroute]
    refine ⟨?_, by rw [hframe]⟩
    rw [Table.rows_insert? hout, hframe]
  case isFalse hroute =>
    cases h
    rw [if_neg hroute, List.append_nil]
    exact ⟨by rw [hframe], by rw [hframe]⟩

end Webhookery.Store
