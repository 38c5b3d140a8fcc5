import Webhookery.Store.Ingest

/-!
# When a capture commits

With a connection and identifiers that are not in use, `CaptureInbound` fails only on a text or a
document that the database refuses. The checks are collected in one condition on its input, and the
capture commits exactly when it holds.
-/

namespace Webhookery.Store

open Go Relational

variable {env : Env} {input : CaptureInboundInput} {db : DB}

/-- The identifiers that a capture generates are not in use. -/
structure Env.Fresh (env : Env) (db : DB) : Prop where
  raw : ∀ r ∈ db.rawPayloads, r.id ≠ env.mustID "raw" 0
  event : ∀ e ∈ db.events, e.id ≠ env.mustID "evt" 0
  envelope : ∀ n ∈ db.normalized, n.id ≠ env.mustID "nenv" 0 ∧ n.eventID ≠ env.mustID "evt" 0
  outbox : ∀ o ∈ db.outbox, o.id ≠ env.mustID "out" 0
  receipt : ∀ r ∈ db.receipts, r.id ≠ env.mustID "rcp" 0
  quarantine : ∀ q ∈ db.quarantine, q.id ≠ env.mustID "qua" 0

/-- Every text and document that a capture writes is accepted; the envelope is written for a new
event only. -/
structure CaptureAccepts (env : Env) (input : CaptureInboundInput) (db : DB) : Prop where
  raw : [input.tenantID, input.sha256, input.contentType].all textAccepts = true
  event : eventAccepts (captureEventRow env input) = true
  envelope : db.events.byIndex (input.tenantID, input.dedupeKey) = none →
    ∀ row ∈ captureEnvelopeRow env input (captureVersionID input db), normalizedAccepts row = true
  receipt : (textAccepts input.remoteIP && textAccepts input.verifyReason &&
    jsonbAccepts (headersJSON input.rawHeaders)) = true

/-! ## The statements -/

theorem exists_insertOutbox (hfresh : ∀ o ∈ db.outbox, o.id ≠ env.mustID "out" 0) :
    ∃ db', insertOutbox env tenantID kind resourceID db = .ok db' := by
  obtain ⟨t, ht⟩ := Table.exists_insert? (x := outboxRow env tenantID kind resourceID)
    ⟨hfresh, fun _ _ ↦ .inl rfl⟩
  exact ⟨_, insertOutbox_eq_ok.mpr ⟨t, ht, rfl⟩⟩

theorem exists_captureQuarantine (hfresh : ∀ q ∈ db.quarantine, q.id ≠ env.mustID "qua" 0) :
    ∃ db', captureQuarantine env input eventID db = .ok db' := by
  unfold captureQuarantine
  split
  · exact ⟨db, rfl⟩
  · obtain ⟨t, ht⟩ := Table.exists_insert? (x := captureQuarantineRow env input eventID)
      ⟨hfresh, fun _ _ ↦ .inl rfl⟩
    exact ⟨_, insertQuarantine_eq_ok.mpr ⟨t, ht, rfl⟩⟩

theorem exists_insertEnvelope
    (hfresh : ∀ n ∈ db.normalized, n.id ≠ env.mustID "nenv" 0 ∧ n.eventID ≠ env.mustID "evt" 0)
    (haccepts : ∀ row ∈ captureEnvelopeRow env input versionID, normalizedAccepts row = true) :
    ∃ t, insertEnvelope (captureEnvelopeRow env input versionID) db = .ok { db with normalized := t } := by
  cases hrow : captureEnvelopeRow env input versionID with
  | none => exact ⟨db.normalized, rfl⟩
  | some =>
    obtain ⟨n, -, rfl⟩ := Option.map_eq_some_iff.mp hrow
    have hfits : db.normalized.Fits
        (normalizedRow env input.tenantID (env.mustID "evt" 0) versionID n input.createdAt) := by
      refine ⟨fun r hr ↦ (hfresh r hr).1, fun r hr ↦ .inr fun hindex ↦ ?_⟩
      exact (hfresh r hr).2 (Prod.mk.inj (Option.some.inj hindex)).2
    obtain ⟨t, ht⟩ := Table.exists_insert? hfits
    exact ⟨t, insertNormalized_eq_ok.mpr ⟨haccepts _ hrow, t, ht, rfl⟩⟩

theorem exists_captureNewEvent (hevent : ∀ e ∈ db.events, e.id ≠ env.mustID "evt" 0)
    (henvelope : ∀ n ∈ db.normalized, n.id ≠ env.mustID "nenv" 0 ∧ n.eventID ≠ env.mustID "evt" 0)
    (houtbox : ∀ o ∈ db.outbox, o.id ≠ env.mustID "out" 0)
    (hfree : db.events.byIndex (input.tenantID, input.dedupeKey) = none)
    (haccepts : ∀ row ∈ captureEnvelopeRow env input (captureVersionID input db),
      normalizedAccepts row = true) :
    ∃ db', captureNewEvent env input db = .ok db' := by
  have hfits : db.events.Fits (captureEventRow env input) :=
    ⟨hevent, fun e he ↦ .inr fun hindex ↦ Table.byIndex_eq_none_iff.mp hfree e he hindex⟩
  obtain ⟨events, hevents⟩ := Table.exists_insert? hfits
  have hafter : ∃ t, insertEnvelope (captureEnvelopeRow env input (captureVersionID input db))
      { db with events := events } = .ok { { db with events := events } with normalized := t } :=
    exists_insertEnvelope henvelope haccepts
  obtain ⟨t, ht⟩ := hafter
  have hlast : ∃ db', insertOutbox env input.tenantID .routeEvent (env.mustID "evt" 0)
      { { db with events := events } with normalized := t } = .ok db' := exists_insertOutbox houtbox
  obtain ⟨db', hdb'⟩ := hlast
  exact ⟨db', bind_eq_ok.mpr ⟨events, insertRow_eq_ok.mpr hevents, bind_eq_ok.mpr ⟨_, ht, hdb'⟩⟩⟩

theorem exists_captureEvent (hevent : ∀ e ∈ db.events, e.id ≠ env.mustID "evt" 0)
    (henvelope : ∀ n ∈ db.normalized, n.id ≠ env.mustID "nenv" 0 ∧ n.eventID ≠ env.mustID "evt" 0)
    (houtbox : ∀ o ∈ db.outbox, o.id ≠ env.mustID "out" 0)
    (haccepts : CaptureAccepts env input db) :
    ∃ out, captureEvent env input db = .ok out := by
  have hrequire : require (eventAccepts (captureEventRow env input)) .failed = .ok () :=
    require_eq_ok.mpr haccepts.event
  cases hkey : db.events.byIndex (input.tenantID, input.dedupeKey) with
  | some existing =>
    refine ⟨(existing.id, .duplicateSuppressed, db), bind_eq_ok.mpr ⟨(), hrequire, ?_⟩⟩
    rw [hkey]
    rfl
  | none =>
    obtain ⟨db', hnew⟩ :=
      exists_captureNewEvent hevent henvelope houtbox hkey (haccepts.envelope hkey)
    refine ⟨(env.mustID "evt" 0, .unique, db'), bind_eq_ok.mpr ⟨(), hrequire, ?_⟩⟩
    rw [hkey]
    exact bind_eq_ok.mpr ⟨db', hnew, rfl⟩

theorem exists_finishCapture (hreceipt : ∀ r ∈ db.receipts, r.id ≠ env.mustID "rcp" 0)
    (hquarantine : ∀ q ∈ db.quarantine, q.id ≠ env.mustID "qua" 0)
    (haccepts : (textAccepts input.remoteIP && textAccepts input.verifyReason &&
      jsonbAccepts (headersJSON input.rawHeaders)) = true) :
    ∃ out, finishCapture env input eventID status db = .ok out := by
  have hinsert : ∃ t, insertReceipt (captureReceiptRow env input eventID)
      (linkRawPayload (env.mustID "raw" 0) eventID db) =
        .ok { linkRawPayload (env.mustID "raw" 0) eventID db with receipts := t } := by
    obtain ⟨t, ht⟩ := Table.exists_insert? (x := captureReceiptRow env input eventID) ⟨hreceipt, fun _ _ ↦ .inl rfl⟩
    exact ⟨t, insertReceipt_eq_ok.mpr ⟨haccepts, t, ht, rfl⟩⟩
  obtain ⟨t, ht⟩ := hinsert
  generalize hlinked : ({ linkRawPayload (env.mustID "raw" 0) eventID db with receipts := t } : DB) =
    linked at ht
  have hentries : ∃ db', captureQuarantine env input eventID
      (captureRecords env input eventID status linked) = .ok db' := by
    apply exists_captureQuarantine
    obtain ⟨_, _, hrecords⟩ := captureRecords_eq env input eventID status linked
    rw [hrecords, ← hlinked]
    exact hquarantine
  obtain ⟨db', hdb'⟩ := hentries
  exact ⟨_, bind_eq_ok.mpr ⟨linked, ht, bind_eq_ok.mpr ⟨db', hdb', rfl⟩⟩⟩

/-! ## The capture -/

theorem captureAccepts_of_captureInbound (h : captureInbound env input db = .ok out) : CaptureAccepts env input db := by
  obtain ⟨_, -, h⟩ := bind_eq_ok.mp h
  obtain ⟨_, hinsert, h⟩ := bind_eq_ok.mp h
  obtain ⟨hraw, raw, -, rfl⟩ := insertRawPayload_eq_ok.mp hinsert
  obtain ⟨⟨_, _, _⟩, hcapture, h⟩ := bind_eq_ok.mp h
  obtain ⟨_, hreceipt, -⟩ := bind_eq_ok.mp h
  obtain ⟨_, hevent, hcapture⟩ := bind_eq_ok.mp hcapture
  have hreceipt := (insertReceipt_eq_ok.mp hreceipt).1
  refine ⟨hraw, require_eq_ok.mp hevent, fun hfree row hrow ↦ ?_, hreceipt⟩
  rw [show ({ db with rawPayloads := raw } : DB).events.byIndex (input.tenantID, input.dedupeKey) = none
    from hfree] at hcapture
  obtain ⟨_, hnew, -⟩ := bind_eq_ok.mp hcapture
  obtain ⟨_, -, hnew⟩ := bind_eq_ok.mp hnew
  obtain ⟨_, henvelope, -⟩ := bind_eq_ok.mp hnew
  have hversion : captureVersionID input { db with rawPayloads := raw } = captureVersionID input db := rfl
  rw [hversion, Option.mem_def.mp hrow] at henvelope
  exact (insertNormalized_eq_ok.mp henvelope).1

/-- With a connection and fresh identifiers, a capture commits exactly when what it writes is
accepted. -/
theorem captureInbound_commits_iff (hconnection : env.connectionFails = false) (hfresh : env.Fresh db) :
    (∃ out, captureInbound env input db = .ok out) ↔ CaptureAccepts env input db := by
  constructor
  · rintro ⟨_, h⟩
    exact captureAccepts_of_captureInbound h
  · intro haccepts
    have hfits : db.rawPayloads.Fits (captureRawRow env input) := ⟨hfresh.raw, fun _ _ ↦ .inl rfl⟩
    obtain ⟨raw, hinsert⟩ := Table.exists_insert? hfits
    have hraw : insertRawPayload (captureRawRow env input) db = .ok { db with rawPayloads := raw } :=
      insertRawPayload_eq_ok.mpr ⟨haccepts.raw, raw, hinsert, rfl⟩
    -- the payload is in none of the tables that the rest of the capture reads
    have hevent : ∃ out, captureEvent env input { db with rawPayloads := raw } = .ok out :=
      exists_captureEvent hfresh.event hfresh.envelope hfresh.outbox
        ⟨haccepts.raw, haccepts.event, haccepts.envelope, haccepts.receipt⟩
    obtain ⟨⟨eventID, status, db'⟩, hevent⟩ := hevent
    obtain ⟨⟨_, _, _, hframe⟩, -⟩ := captureEvent_eq_ok hevent
    have hfinish : ∃ out, finishCapture env input eventID status db' = .ok out := by
      rw [← hframe]
      exact exists_finishCapture hfresh.receipt hfresh.quarantine haccepts.receipt
    obtain ⟨out, hout⟩ := hfinish
    have hconnected : require (!env.connectionFails) .failed = .ok () := by
      rw [require_eq_ok, hconnection, Bool.not_false]
    refine ⟨out, bind_eq_ok.mpr ⟨(), hconnected, bind_eq_ok.mpr ⟨_, hraw, ?_⟩⟩⟩
    exact bind_eq_ok.mpr ⟨_, hevent, hout⟩

end Webhookery.Store
