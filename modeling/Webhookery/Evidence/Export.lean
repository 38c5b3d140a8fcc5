import Webhookery.Audit.Tampering
import Webhookery.Evidence.RoundTrip

/-!
# Audit exports

An export bundles the evidence of a window of time, and verifies its own bundle before it is stored. The chain
proof in it holds the entries whose events are there and occurred in the window, and the verifier takes the
first entry of a proof for the first of the chain. So an export passes when these entries are the first ones of
the tenant's chain, up to some number, or none at all.
-/

namespace Webhookery.Evidence

open Go Audit Store Relational

/-! ## The requests and what is read -/

/-- `CreateAuditExportRequest`; a zero time leaves the window open. -/
structure CreateAuditExportRequest where
  (fromTime toTime : Time)
  (includeRawPayloads includeTimelines includePayloadBodies : Bool)
  deriving DecidableEq, Repr

inductive ExportError where
  | store (err : StoreError)
  | bundle (err : BundleError)
  | verificationFailed (failures : List String)
  deriving DecidableEq, Repr

/-- What the other queries of an export return, as lines of JSON. -/
structure ExportReads where
  auditLines : List AuditEvent → Except ExportError Bytes
  timeline : Except ExportError Bytes
  rawPayloads : Except ExportError Bytes
  payloadEvidence : Bool → Except ExportError Bytes
  reconciliationEvidence : Bool → Except ExportError Bytes
  anchors : Int → Int → Except ExportError (List AuditChainAnchor)
  eventIDs : Except ExportError (List String)

/-- A time that a bound of the window, which is a parameter of the query, leaves in. -/
def inWindow (fromTime toTime occurredAt : Time) : Bool :=
  (fromTime == Time.zero || timestamptz fromTime ≤ occurredAt) && (toTime == Time.zero || occurredAt ≤ timestamptz toTime)

def auditEventsForExport (db : AuditTables) (tenantID : String) (fromTime toTime : Time) : List AuditEvent :=
  (db.events.rows.filter fun a ↦ a.tenantID == tenantID && inWindow fromTime toTime a.occurredAt).insertionSort fun a a' ↦
    a.occurredAt < a'.occurredAt ∨ a.occurredAt = a'.occurredAt ∧ a.id ≤ a'.id

/-- The join of the chain with the events of the window. -/
def entryInWindow (db : AuditTables) (fromTime toTime : Time) (entry : AuditChainEntry) : Bool :=
  db.events.rows.any fun a ↦ AuditTables.isEntryOf a entry && inWindow fromTime toTime a.occurredAt

/-- `scanAuditChainEntry`: the epoch stands for no time. -/
def scanAuditChainEntry (entry : AuditChainEntry) : AuditChainEntry :=
  { entry with auditEventDeletedAt := entry.auditEventDeletedAt.filter (· ≠ 0) }

/-- The entries of `auditChainProofForExport`. -/
def chainProofEntries (db : AuditTables) (tenantID : String) (fromTime toTime : Time) : List AuditChainEntry :=
  (((db.chainOf tenantID).filter (entryInWindow db fromTime toTime)).insertionSort fun e e' ↦
    e.sequence ≤ e'.sequence).map scanAuditChainEntry

variable (F : Formats) (crypto : Crypto)

/-- `auditChainProofForExport`: the lines of the proof, and what the manifest says about it. -/
def auditChainProofForExport (reads : ExportReads) (db : AuditTables) (tenantID : String) (fromTime toTime : Time) :
    Except ExportError (Bytes × Option AuditChain) := do
  let entries := chainProofEntries db tenantID fromTime toTime
  let body ← (orError .marshal (F.jsonLines entries)).mapError .bundle
  match entries.head?, entries.getLast? with
  | some first, some last =>
    let anchors ← reads.anchors first.sequence last.sequence
    return (body, some ⟨first.sequence, last.sequence, first.previousChainHash, last.chainHash, anchors⟩)
  | _, _ => return (body, none)

/-- A file that is added on request. -/
def addWhen (included : Bool) (name : String) (content : Except ExportError Bytes) (files : FileMap) :
    Except ExportError FileMap :=
  if included then do
    let content ← content
    return files.insert name content
  else .ok files

def manifestTime (value : Time) : Option Time := if value = Time.zero then none else some value

/-- The manifest of an export. -/
def exportManifest (env : Env) (tenantID : String) (req : CreateAuditExportRequest) (eventIDs : List String)
    (chain : Option AuditChain) : Manifest where
  schemaVersion := ""
  generatedAt := Time.zero
  tenantIDHash := ""
  bundleID := ""
  exportID := env.mustID "exp" 0
  tenantID := tenantID
  createdAt := env.now
  fromTime := manifestTime req.fromTime
  toTime := manifestTime req.toTime
  includedEvents := eventIDs
  includedIncidents := []
  hashes := none
  includeRawPayloads := req.includeRawPayloads
  includeTimelines := req.includeTimelines
  includePayloadBodies := req.includePayloadBodies
  redactionPolicy := .zero
  auditChain := chain
  nonClaims := []
  files := []

/-- The bundle that `CreateAuditExport` builds. Its queries are not in one transaction, so the audit events may
be read from earlier tables than the chain. -/
def exportBundle (env : Env) (reads : ExportReads) (earlier db : AuditTables) (tenantID : String)
    (req : CreateAuditExportRequest) : Except ExportError Bundle := do
  let auditJSONL ← reads.auditLines (auditEventsForExport earlier tenantID req.fromTime req.toTime)
  let files := (∅ : FileMap).insert "audit_events.jsonl" auditJSONL
  let files ← addWhen req.includeTimelines "timelines.jsonl" reads.timeline files
  let files ← addWhen req.includeRawPayloads "raw_payloads.jsonl" reads.rawPayloads files
  let files ← addWhen true "payload_evidence.jsonl" (reads.payloadEvidence req.includePayloadBodies) files
  let files ← addWhen true "reconciliation_evidence.jsonl" (reads.reconciliationEvidence req.includePayloadBodies) files
  let (proof, chain) ← auditChainProofForExport F reads db tenantID req.fromTime req.toTime
  let files := files.insert "audit_chain_proof.jsonl" proof
  let eventIDs ← reads.eventIDs
  (buildTarGzipBundle F crypto env.now (exportManifest env tenantID req eventIDs chain) files).mapError .bundle

/-- `CreateAuditExport` up to the point where the bundle is stored. -/
def createAuditExport (env : Env) (reads : ExportReads) (earlier db : AuditTables) (tenantID : String)
    (req : CreateAuditExportRequest) : Except ExportError Bundle := do
  let bundle ← exportBundle F crypto env reads earlier db tenantID req
  let verification ← (verifyTarGzipBundle F crypto bundle.bytes).mapError .bundle
  if verification.valid then return bundle else throw (.verificationFailed verification.failures)

/-! ## The files of an export -/

variable {F} {crypto} {env : Env} {reads : ExportReads} {earlier db : AuditTables} {tenantID : String}
  {req : CreateAuditExportRequest} {bundle : Bundle} {fromTime toTime : Time}

theorem mapError_eq_ok {α ε ε' : Type} {f : ε → ε'} {x : Except ε α} {a : α} : x.mapError f = .ok a ↔ x = .ok a := by
  cases x <;> simp [Except.mapError]

/-- The names that the files of an export may have. -/
def exportNames : List String :=
  ["audit_events.jsonl", "timelines.jsonl", "raw_payloads.jsonl", "payload_evidence.jsonl",
    "reconciliation_evidence.jsonl", "audit_chain_proof.jsonl"]

theorem bundleName_of_mem_exportNames : ∀ name ∈ exportNames, BundleName name := by decide

/-- The names of some files are among those of an export. -/
def Named (files : FileMap) : Prop := ∀ name ∈ files, name ∈ exportNames

theorem Named.insert (h : Named files) (hname : name ∈ exportNames) : Named (files.insert name data) := by
  intro other hother
  rcases Finmap.mem_insert.mp hother with rfl | hother
  · exact hname
  · exact h other hother

theorem Named.addWhen
    (h : Named files) (hname : name ∈ exportNames) (hadd : addWhen included name content files = .ok files') :
    Named files' := by
  unfold Evidence.addWhen at hadd
  split at hadd
  · obtain ⟨_, -, hadd⟩ := bind_eq_ok.mp hadd
    cases hadd
    exact h.insert hname
  · cases hadd
    exact h

/-- What an export's bundle is built from. -/
structure ExportBuilt (F : Formats) (crypto : Crypto) (env : Env) (db : AuditTables) (tenantID : String)
    (req : CreateAuditExportRequest) (bundle : Bundle) (eventIDs : List String) (chain : Option AuditChain)
    (files : FileMap) (proof : Bytes) : Prop where
  named : Named files
  lookup : files.lookup "audit_chain_proof.jsonl" = some proof
  lines : F.jsonLines (chainProofEntries db tenantID req.fromTime req.toTime) = some proof
  build : buildTarGzipBundle F crypto env.now (exportManifest env tenantID req eventIDs chain) files = .ok bundle

theorem lines_of_auditChainProofForExport {proof : Bytes} {chain : Option AuditChain}
    (h : auditChainProofForExport F reads db tenantID fromTime toTime = .ok (proof, chain)) :
    F.jsonLines (chainProofEntries db tenantID fromTime toTime) = some proof := by
  obtain ⟨_, hbody, h⟩ := bind_eq_ok.mp h
  have hlines := orError_eq_ok.mp (mapError_eq_ok.mp hbody)
  split at h
  · obtain ⟨_, -, h⟩ := bind_eq_ok.mp h
    cases h
    exact hlines
  · cases h
    exact hlines

theorem exportBundle_eq_ok (h : exportBundle F crypto env reads earlier db tenantID req = .ok bundle) :
    ∃ eventIDs chain files proof, ExportBuilt F crypto env db tenantID req bundle eventIDs chain files proof := by
  obtain ⟨auditJSONL, -, h⟩ := bind_eq_ok.mp h
  obtain ⟨_, htimelines, h⟩ := bind_eq_ok.mp h
  obtain ⟨_, hraw, h⟩ := bind_eq_ok.mp h
  obtain ⟨_, hpayloads, h⟩ := bind_eq_ok.mp h
  obtain ⟨withReconciliation, hreconciliation, h⟩ := bind_eq_ok.mp h
  obtain ⟨⟨proof, chain⟩, hproof, h⟩ := bind_eq_ok.mp h
  obtain ⟨eventIDs, -, h⟩ := bind_eq_ok.mp h
  have hnone : Named ∅ := fun name hname ↦ absurd hname Finmap.notMem_empty
  have hfirst : Named ((∅ : FileMap).insert "audit_events.jsonl" auditJSONL) := hnone.insert (by decide)
  have hnamed : Named withReconciliation :=
    (((hfirst.addWhen (by decide) htimelines).addWhen (by decide) hraw).addWhen (by decide) hpayloads).addWhen
      (by decide) hreconciliation
  exact ⟨eventIDs, chain, withReconciliation.insert "audit_chain_proof.jsonl" proof, proof, {
    named := hnamed.insert (by decide)
    lookup := Finmap.lookup_insert _
    lines := lines_of_auditChainProofForExport hproof
    build := mapError_eq_ok.mp h }⟩

/-! ## The proof of a window -/

/-- The rows of the proof, which come in the order of the chain. -/
theorem chainProofEntries_eq (hsound : Sound crypto db) :
    chainProofEntries db tenantID fromTime toTime =
      ((db.chainOf tenantID).filter (entryInWindow db fromTime toTime)).map scanAuditChainEntry := by
  have hsorted : ((db.chainOf tenantID).filter (entryInWindow db fromTime toTime)).Pairwise
      fun e e' ↦ e.sequence ≤ e'.sequence :=
    ((hsound.linked tenantID).sorted.sublist List.filter_sublist).imp Int.le_of_lt
  rw [chainProofEntries, hsorted.insertionSort_eq]

/-- The window covers the chain of a tenant from its first entry up to some number, or nothing of it. -/
def WindowFromStart (db : AuditTables) (tenantID : String) (fromTime toTime : Time) : Prop :=
  ∃ n : Int, ∀ e ∈ db.chainOf tenantID, entryInWindow db fromTime toTime e = true ↔ e.sequence ≤ n

theorem linked_chainProofEntries_iff (hsound : Sound crypto db) :
    (∃ n, (links crypto).Linked n "" (chainProofEntries db tenantID fromTime toTime)) ↔
      WindowFromStart db tenantID fromTime toTime := by
  have hlinked := hsound.linked tenantID
  have hhash : ∀ e ∈ db.chainOf tenantID, (links crypto).hash e ≠ "" := by
    intro e he
    rw [hlinked.hash_eq he]
    exact hash_ne_empty _
  rw [chainProofEntries_eq hsound]
  simp only [Links.linked_map (L := links crypto) (f := scanAuditChainEntry) (fun _ ↦ rfl) (fun _ ↦ rfl) (fun _ ↦ rfl) (fun _ ↦ rfl)]
  exact hlinked.filter_iff hhash _

/-- The bundle of an export is valid exactly when its tenant has a name and its window covers the first entries of
the chain or none. -/
theorem valid_exportBundle_iff (hF : F.RoundTrips) (hsound : Sound crypto db)
    (h : exportBundle F crypto env reads earlier db tenantID req = .ok bundle) :
    (∃ result, verifyTarGzipBundle F crypto bundle.bytes = .ok result ∧ result.valid = true) ↔
      tenantID ≠ "" ∧ WindowFromStart db tenantID req.fromTime req.toTime := by
  obtain ⟨eventIDs, chain, files, _, hbuilt⟩ := exportBundle_eq_ok h
  have hnames : ∀ name ∈ files.names, BundleName name := fun name hname ↦
    bundleName_of_mem_exportNames name (hbuilt.named name (mem_names.mp hname))
  have hpos : ∀ e ∈ chainProofEntries db tenantID req.fromTime req.toTime, 1 ≤ e.sequence := by
    intro e he
    rw [chainProofEntries_eq hsound] at he
    obtain ⟨_, hrow, rfl⟩ := List.mem_map.mp he
    exact ((hsound.linked tenantID).bounds (List.mem_of_mem_filter hrow)).1
  have hproof : ProofClean F crypto files ↔ WindowFromStart db tenantID req.fromTime req.toTime :=
    (proofClean_iff_linked hF hbuilt.lookup hbuilt.lines hpos).trans (linked_chainProofEntries_iff hsound)
  by_cases htenant : tenantID = ""
  · refine iff_of_false (fun hvalid ↦ ?_) fun hcond ↦ hcond.1 htenant
    have hhash := (validateManifest_eq_nil.mp (validateManifest_of_valid hF hnames hbuilt.build hvalid)).2.2.1
    subst htenant
    exact hhash rfl
  · have hok : Bundleable (exportManifest env tenantID req eventIDs chain) files :=
      ⟨htenant, .inl (env.mustID_ne_empty "exp" 0), .inl rfl, hnames⟩
    rw [valid_iff_proofClean hF hok hbuilt.build, hproof]
    exact (and_iff_right htenant).symm

theorem createAuditExport_eq_ok (h : exportBundle F crypto env reads earlier db tenantID req = .ok bundle) :
    createAuditExport F crypto env reads earlier db tenantID req = .ok bundle ↔
      ∃ result, verifyTarGzipBundle F crypto bundle.bytes = .ok result ∧ result.valid = true := by
  constructor
  · intro hcreate
    obtain ⟨_, hbuilt, hcreate⟩ := bind_eq_ok.mp hcreate
    obtain rfl := Except.ok.inj (h.symm.trans hbuilt)
    obtain ⟨result, hresult, hcreate⟩ := bind_eq_ok.mp hcreate
    split at hcreate
    case isTrue hvalid => exact ⟨result, mapError_eq_ok.mp hresult, hvalid⟩
    case isFalse => cases hcreate
  · rintro ⟨result, hresult, hvalid⟩
    refine bind_eq_ok.mpr ⟨bundle, h, bind_eq_ok.mpr ⟨result, mapError_eq_ok.mpr hresult, ?_⟩⟩
    rw [if_pos hvalid]
    rfl

/-- Nothing but the chain is there to export. -/
def chainOnly : ExportReads :=
  ⟨fun _ ↦ .ok [], .ok [], .ok [], fun _ ↦ .ok [], fun _ ↦ .ok [], fun _ _ ↦ .ok [], .ok []⟩

def windowOf (fromTime toTime : Time) : CreateAuditExportRequest := ⟨fromTime, toTime, false, false, false⟩

/-- With formats that refuse nothing, such an export is built. -/
theorem exists_exportBundle (fromTime toTime : Time) :
    ∃ bundle, exportBundle jsonFormats crypto env chainOnly earlier db tenantID (windowOf fromTime toTime) = .ok bundle := by
  obtain ⟨proof, hproof⟩ : ∃ proof,
      jsonFormats.jsonLines (chainProofEntries db tenantID fromTime toTime) = some proof := ⟨_, rfl⟩
  obtain ⟨chain, hchain⟩ : ∃ chain,
      auditChainProofForExport jsonFormats chainOnly db tenantID fromTime toTime = .ok (proof, chain) := by
    unfold auditChainProofForExport
    dsimp only
    rw [hproof]
    dsimp only [orError, Except.mapError, bind, Except.bind]
    split
    · exact ⟨_, rfl⟩
    · exact ⟨none, rfl⟩
  let files : FileMap := ((((∅ : FileMap).insert "audit_events.jsonl" []).insert "payload_evidence.jsonl" []).insert
    "reconciliation_evidence.jsonl" []).insert "audit_chain_proof.jsonl" proof
  have hnone : Named ∅ := fun name hname ↦ absurd hname Finmap.notMem_empty
  have hnamed : Named files :=
    (((hnone.insert (by decide)).insert (by decide)).insert (by decide)).insert (by decide)
  have hnames : ∀ name ∈ files.names, FileName name := fun name hname ↦
    (bundleName_of_mem_exportNames name (hnamed name (mem_names.mp hname))).toFileName
  obtain ⟨bundle, hbundle⟩ := exists_bundle (mapM_writeTarFile hnames)
  refine ⟨bundle, ?_⟩
  refine bind_eq_ok.mpr ⟨[], rfl, bind_eq_ok.mpr ⟨_, rfl, bind_eq_ok.mpr ⟨_, rfl, bind_eq_ok.mpr ⟨_, rfl, ?_⟩⟩⟩⟩
  refine bind_eq_ok.mpr ⟨_, rfl, bind_eq_ok.mpr ⟨(proof, chain), hchain, bind_eq_ok.mpr ⟨[], rfl, ?_⟩⟩⟩
  exact mapError_eq_ok.mpr hbundle

/-- In every state that transactions reach: an export is accepted exactly when its window covers the first entries
of the tenant's chain or none. -/
theorem export_accepted_iff {start : AuditTables} {log : AuditLog} (hF : F.RoundTrips) (hstart : start.Unchained)
    (hreached : Reached crypto start log)
    (h : exportBundle F crypto env reads earlier log.tables tenantID req = .ok bundle) :
    ((∃ result, verifyTarGzipBundle F crypto bundle.bytes = .ok result ∧ result.valid = true) ↔
      tenantID ≠ "" ∧ WindowFromStart log.tables tenantID req.fromTime req.toTime) ∧
    (createAuditExport F crypto env reads earlier log.tables tenantID req = .ok bundle ↔
      tenantID ≠ "" ∧ WindowFromStart log.tables tenantID req.fromTime req.toTime) := by
  have hsound : Sound crypto log.tables := (hreached.intact hstart).tables.toSound
  have hvalid := valid_exportBundle_iff hF hsound h
  exact ⟨hvalid, (createAuditExport_eq_ok h).trans hvalid⟩

/-- While all events of a chain are there, the open window is accepted. -/
theorem export_accepted_open :
    ∃ (log : AuditLog) (bundle : Bundle), jsonFormats.RoundTrips ∧ Reached .standard oldTables log ∧
      exportBundle jsonFormats .standard (tenthDay "e") chainOnly log.tables log.tables "ten_1"
        (windowOf Time.zero Time.zero) = .ok bundle ∧
      (∃ result, verifyTarGzipBundle jsonFormats .standard bundle.bytes = .ok result ∧ result.valid = true) ∧
      createAuditExport jsonFormats .standard (tenthDay "e") chainOnly log.tables log.tables "ten_1"
        (windowOf Time.zero Time.zero) = .ok bundle := by
  have hwindow : WindowFromStart (performAll .standard (mixedOps.take 2) ⟨oldTables, []⟩).tables "ten_1"
      Time.zero Time.zero := ⟨2, by decide +kernel⟩
  obtain ⟨bundle, hbundle⟩ := exists_exportBundle Time.zero Time.zero
  obtain ⟨hvalid, hcreate⟩ := export_accepted_iff roundTrips_jsonFormats unchained_oldTables reached_twoEntries hbundle
  exact ⟨_, bundle, roundTrips_jsonFormats, reached_twoEntries, hbundle, hvalid.mpr ⟨by decide, hwindow⟩,
    hcreate.mpr ⟨by decide, hwindow⟩⟩

/-! ## Windows that are refused -/

/-- A window that leaves out an entry and has a later one does not cover the chain from its start. -/
theorem not_windowFromStart
    (h : ∃ e ∈ db.chainOf tenantID, ∃ e' ∈ db.chainOf tenantID, e.sequence ≤ e'.sequence ∧
      entryInWindow db fromTime toTime e = false ∧ entryInWindow db fromTime toTime e' = true) :
    ¬WindowFromStart db tenantID fromTime toTime := by
  rintro ⟨n, hn⟩
  obtain ⟨e, he, e', he', hle, hout, hin⟩ := h
  have hlast : e'.sequence ≤ n := (hn e' he').mp hin
  have hfirst : entryInWindow db fromTime toTime e = true := (hn e he).mpr (hle.trans hlast)
  exact Bool.false_ne_true (hout.symm.trans hfirst)

/-- The export of a window is built, and then refused. -/
def Refused (db : AuditTables) (fromTime toTime : Time) : Prop :=
  ∃ bundle, exportBundle jsonFormats .standard (tenthDay "e") chainOnly db db "ten_1" (windowOf fromTime toTime) =
      .ok bundle ∧
    (¬∃ result, verifyTarGzipBundle jsonFormats .standard bundle.bytes = .ok result ∧ result.valid = true) ∧
    createAuditExport jsonFormats .standard (tenthDay "e") chainOnly db db "ten_1" (windowOf fromTime toTime) ≠ .ok bundle

theorem refused_of_not_windowFromStart (hsound : Sound .standard db)
    (hnot : ¬WindowFromStart db "ten_1" fromTime toTime) : Refused db fromTime toTime := by
  obtain ⟨bundle, hbundle⟩ := exists_exportBundle fromTime toTime
  have hvalid : ¬∃ result, verifyTarGzipBundle jsonFormats .standard bundle.bytes = .ok result ∧ result.valid = true :=
    fun hvalid ↦ hnot ((valid_exportBundle_iff roundTrips_jsonFormats hsound hbundle).mp hvalid).2
  exact ⟨bundle, hbundle, hvalid, fun hcreate ↦ hvalid ((createAuditExport_eq_ok hbundle).mp hcreate)⟩

/-- In the first window is only the second event of the chain. In the second one are all events, and retention
has deleted that of the second entry. -/
theorem exports_refused :
    jsonFormats.RoundTrips ∧ (∃ log, Reached .standard oldTables log ∧ Refused log.tables 0 0) ∧
      ∃ log, Reached .standard oldTables log ∧ Refused log.tables Time.zero Time.zero := by
  have hrefused {log : AuditLog} (hreached : Reached .standard oldTables log) {fromTime toTime : Time}
      (hnot : ¬WindowFromStart log.tables "ten_1" fromTime toTime) : Refused log.tables fromTime toTime :=
    refused_of_not_windowFromStart (hreached.intact unchained_oldTables).tables.toSound hnot
  exact ⟨roundTrips_jsonFormats, ⟨_, reached_twoEntries, hrefused reached_twoEntries (not_windowFromStart (by decide +kernel))⟩,
    _, reached_mixedOps, hrefused reached_mixedOps (not_windowFromStart (by decide +kernel))⟩

end Webhookery.Evidence
