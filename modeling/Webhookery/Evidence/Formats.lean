import Webhookery.Evidence.Bundle
import Webhookery.Go.Documents

/-!
# Formats that write everything

Everything that goes into a bundle has a JSON form that is read back, and writing that form is refused for nothing.
-/

namespace Webhookery.Evidence

open Go Audit Document

/-! ## Forms -/

instance : Document TarType :=
  ofPartialInverse (fun type ↦ if type = .regular then "regular" else if type = .directory then "directory" else "other")
    (fun s ↦ some (if s = "regular" then .regular else if s = "directory" then .directory else .other))
    fun type ↦ by cases type <;> decide

instance : Document TarEntry :=
  ofPartialInverse (fun e ↦ (e.name, e.type, e.data)) (fun (name, type, data) ↦ some ⟨name, type, data⟩) fun _ ↦ rfl

instance : Document EntryState :=
  ofPartialInverse (fun | .active => (true, none) | .retained => (false, none) | .other text => (false, some text))
    (fun | (true, _) => some .active | (false, none) => some .retained | (false, some text) => some (.other text))
    fun state ↦ by cases state <;> rfl

instance : Document AuditChainEntry :=
  ofPartialInverse (fun e ↦ (e.id, e.tenantID, e.sequence, e.auditEventID, e.eventHash, e.previousChainHash, e.chainHash,
      e.canonicalizationVersion, e.source, e.state, e.auditEventDeletedAt, e.tombstoneReason, e.createdAt))
    (fun (id, t, n, event, h, previous, chain, version, source, state, deleted, reason, created) ↦
      some ⟨id, t, n, event, h, previous, chain, version, source, state, deleted, reason, created⟩) fun _ ↦ rfl

instance : Document ManifestRedactionPolicy :=
  ofPartialInverse (fun p ↦ (p.tenantIdentifiers, p.secrets, p.rawPayloadBodies, p.payloadBodies))
    (fun (tenants, secrets, raw, payloads) ↦ some ⟨tenants, secrets, raw, payloads⟩) fun _ ↦ rfl

instance : Document AuditChainAnchor :=
  ofPartialInverse (fun a ↦ (a.id, a.fromSequence, a.toSequence, a.chainHash, a.manifestSHA256))
    (fun (id, m, n, chain, manifest) ↦ some ⟨id, m, n, chain, manifest⟩) fun _ ↦ rfl

instance : Document AuditChain :=
  ofPartialInverse (fun c ↦ (c.fromSequence, c.toSequence, c.startChainHash, c.endChainHash, c.anchors))
    (fun (m, n, first, last, anchors) ↦ some ⟨m, n, first, last, anchors⟩) fun _ ↦ rfl

instance : Document ManifestFile :=
  ofPartialInverse (fun f ↦ (f.name, f.sha256, f.sizeBytes)) (fun (name, h, size) ↦ some ⟨name, h, size⟩) fun _ ↦ rfl

/-- A map is written in the order of its keys. -/
instance : Document (Finmap fun _ : String ↦ String) :=
  ofPartialInverse (fun m ↦ (sorted m.keys).map fun k ↦ (k, (m.lookup k).getD ""))
    (fun l ↦ some (l.map fun p ↦ (⟨p.1, p.2⟩ : Sigma fun _ : String ↦ String)).toFinmap) fun m ↦ by
    rw [List.map_map, Option.some_inj]
    refine Finmap.ext_lookup fun k ↦ Option.ext fun s ↦ ?_
    rw [Finmap.dlookup_list_toFinmap, ← Option.mem_def, List.mem_dlookup_iff]
    · cases hk : m.lookup k <;> simp [sorted, Finmap.mem_keys, Finmap.mem_iff, hk]
    · rw [List.NodupKeys, List.keys, List.map_map]
      exact (List.map_id _).symm ▸ Finset.sort_nodup _ _

instance : Document Manifest :=
  ofPartialInverse (fun m ↦ (m.schemaVersion, m.generatedAt, m.tenantIDHash, m.bundleID, m.exportID, m.tenantID,
      m.createdAt, m.fromTime, m.toTime, m.includedEvents, m.includedIncidents, m.hashes, m.includeRawPayloads,
      m.includeTimelines, m.includePayloadBodies, m.redactionPolicy, m.auditChain, m.nonClaims, m.files))
    (fun (version, generated, tenantHash, bundle, exportID, tenant, created, fromTime, toTime, events, incidents, hashes,
        raw, timelines, payloads, redaction, chain, nonClaims, files) ↦
      some ⟨version, generated, tenantHash, bundle, exportID, tenant, created, fromTime, toTime, events, incidents, hashes,
        raw, timelines, payloads, redaction, chain, nonClaims, files⟩) fun _ ↦ rfl

/-! ## Formats -/

def jsonFormats : Formats where
  writeTarGzip entries := some (text entries)
  readTarGzip := parse
  marshalIndent manifest := some (text manifest.serialized)
  unmarshal := parse
  jsonLines entries := some (text entries)
  decodeLines := parse

theorem roundTrips_jsonFormats : jsonFormats.RoundTrips := by
  have hread {α : Type} [Document α] (hdepth : depth α ≤ Json.maxNestingDepth) (a : α) : parse (text a) = some a := by
    rw [← List.append_nil (text a)]
    exact parse_text hdepth a (rfl : Json.skipSpace [] = [])
  refine ⟨fun h ↦ ?_, fun h ↦ ?_, fun h ↦ ?_⟩
  · cases h
    exact hread (by decide +kernel) _
  · cases h
    change parse (text _ ++ utf8Encode ['\n']) = _
    exact parse_text (by decide +kernel) _ rfl
  · cases h
    exact hread (by decide +kernel) _

end Webhookery.Evidence
