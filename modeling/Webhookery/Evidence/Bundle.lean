import Webhookery.Audit.Chain
import Mathlib.Data.Finmap
import Mathlib.Data.Finset.Sort
import Mathlib.Data.String.Basic

/-!
# Evidence bundles

A bundle is a compressed tar archive with a manifest that lists the other files with their sizes and hashes.
This module translates `bundle.go`: building a bundle from a manifest and a map of files, and verifying one
from its bytes. Go's maps are finite maps. The archive format and the two uses of JSON, for the manifest and
for the lines of the chain proof, are parameters; what is said about them is that what is written can be read.
-/

namespace Webhookery.Evidence

open Go Audit

abbrev FileMap := Finmap fun _ : String ↦ Bytes

/-! ## Manifests -/

structure ManifestRedactionPolicy where
  (tenantIdentifiers secrets rawPayloadBodies payloadBodies : String)
  deriving DecidableEq, Repr

/-- The zero value. -/
def ManifestRedactionPolicy.zero : ManifestRedactionPolicy := ⟨"", "", "", ""⟩

structure AuditChainAnchor where
  id : String
  (fromSequence toSequence : Int)
  (chainHash manifestSHA256 : String)
  deriving DecidableEq, Repr

structure AuditChain where
  (fromSequence toSequence : Int)
  (startChainHash endChainHash : String)
  anchors : List AuditChainAnchor
  deriving DecidableEq, Repr

structure ManifestFile where
  (name sha256 : String)
  sizeBytes : Int
  deriving DecidableEq, Repr

/-- `Manifest`; a nil map of hashes is none. The tenant and the creation time are not serialized. -/
structure Manifest where
  schemaVersion : String
  generatedAt : Time
  (tenantIDHash bundleID exportID tenantID : String)
  createdAt : Time
  (fromTime toTime : Option Time)
  (includedEvents includedIncidents : List String)
  hashes : Option (Finmap fun _ : String ↦ String)
  (includeRawPayloads includeTimelines includePayloadBodies : Bool)
  redactionPolicy : ManifestRedactionPolicy
  auditChain : Option AuditChain
  nonClaims : List String
  files : List ManifestFile

/-- What JSON carries of a manifest. -/
def Manifest.serialized (manifest : Manifest) : Manifest := { manifest with tenantID := "", createdAt := Time.zero }

def manifestSchemaV1 : String := "webhookery.evidence_bundle.v1"

def sha256 (crypto : Crypto) (data : Bytes) : String := "sha256:" ++ hexEncode (crypto.sha256 data)

def defaultRedactionPolicy (includeRawPayloads includePayloadBodies : Bool) : ManifestRedactionPolicy where
  tenantIdentifiers := "tenant identifiers are represented by tenant_id_hash"
  secrets := "webhook secrets, provider signatures, bearer tokens, private keys, and credentials are excluded"
  rawPayloadBodies := if includeRawPayloads then
    "included only when explicitly requested with elevated raw-payload permission" else "omitted"
  payloadBodies := if includePayloadBodies then
    "included only when explicitly requested with elevated raw-payload permission" else "omitted"

def defaultNonClaims : List String :=
  ["Inbound capture does not prove downstream business success.",
    "Webhookery records at-least-once delivery evidence and does not claim exactly-once delivery.",
    "The bundle proves Webhookery evidence observed locally; it does not prove provider-side completeness.",
    "The bundle is not compliance certification, legal evidentiary certification, or managed-service availability evidence."]

def sorted (names : Finset String) : List String := names.sort (· ≤ ·)

/-- The trimmed values without blanks and repetitions, in order. -/
def normalizedStringSet (values : List String) : List String :=
  sorted ((values.map trimSpace).filter (· ≠ "")).toFinset

/-- The map from the names of files to their hashes; a later file of the same name wins. -/
def hashesOf (files : List ManifestFile) : Finmap fun _ : String ↦ String :=
  files.foldl (fun hashes file ↦ hashes.insert file.name file.sha256) ∅

def normalizeManifest (crypto : Crypto) (now : Time) (manifest : Manifest) : Manifest :=
  let generatedAt := if manifest.generatedAt = Time.zero then manifest.createdAt else manifest.generatedAt
  { manifest with
    schemaVersion := if manifest.schemaVersion = "" then manifestSchemaV1 else manifest.schemaVersion
    generatedAt := if generatedAt = Time.zero then now else generatedAt
    bundleID := if manifest.bundleID = "" then manifest.exportID else manifest.bundleID
    tenantIDHash := if manifest.tenantIDHash = "" ∧ manifest.tenantID ≠ "" then
      sha256 crypto (bytesOf manifest.tenantID) else manifest.tenantIDHash
    includedEvents := normalizedStringSet manifest.includedEvents
    includedIncidents := normalizedStringSet manifest.includedIncidents
    hashes := some (hashesOf manifest.files)
    redactionPolicy := if manifest.redactionPolicy = .zero then
      defaultRedactionPolicy manifest.includeRawPayloads manifest.includePayloadBodies else manifest.redactionPolicy
    nonClaims := if manifest.nonClaims = [] then defaultNonClaims else manifest.nonClaims }

/-! ## Formats -/

inductive TarType where
  | regular
  | directory
  | other
  deriving DecidableEq, Repr

structure TarEntry where
  name : String
  type : TarType
  data : Bytes
  deriving DecidableEq, Repr

/-- The writers and readers of the standard library that bundles go through. A writer may refuse its input. -/
structure Formats where
  writeTarGzip : List TarEntry → Option Bytes
  readTarGzip : Bytes → Option (List TarEntry)
  marshalIndent : Manifest → Option Bytes
  unmarshal : Bytes → Option Manifest
  jsonLines : List AuditChainEntry → Option Bytes
  decodeLines : Bytes → Option (List AuditChainEntry)

/-- What was written can be read. A newline after the manifest is white space. -/
structure Formats.RoundTrips (F : Formats) : Prop where
  archive : ∀ {entries body}, F.writeTarGzip entries = some body → F.readTarGzip body = some entries
  manifest : ∀ {manifest body}, F.marshalIndent manifest = some body →
    F.unmarshal (body ++ [0x0a]) = some manifest.serialized
  lines : ∀ {entries body}, F.jsonLines entries = some body → F.decodeLines body = some entries

/-! ## Building -/

inductive BundleError where
  | nameRequired
  | writeTooLong
  | marshal
  | archive
  | unsafeName (name : String)
  | manifest
  | chainProof
  deriving DecidableEq, Repr

/-- `writeTarFile`. The header has no type, so that the writer makes a directory of a name with a slash at its
end, which has no room for data. -/
def writeTarFile (name : String) (data : Bytes) : Except BundleError TarEntry :=
  if name = "" then .error .nameRequired
  else if name.toList.getLast? = some '/' then
    if data = [] then .ok ⟨name, .directory, []⟩ else .error .writeTooLong
  else .ok ⟨name, .regular, data⟩

structure Bundle where
  (bytes manifest : Bytes)
  (manifestSHA256 bundleSHA256 : String)
  files : List ManifestFile

def FileMap.read (files : FileMap) (name : String) : Bytes := (files.lookup name).getD []

def FileMap.names (files : FileMap) : List String := sorted files.keys

/-- The line of the manifest for a file. -/
def manifestFile (crypto : Crypto) (files : FileMap) (name : String) : ManifestFile :=
  ⟨name, sha256 crypto (files.read name), (files.read name).length⟩

/-- The manifest that is written into a bundle. -/
def bundleManifest (crypto : Crypto) (now : Time) (manifest : Manifest) (files : FileMap) : Manifest :=
  normalizeManifest crypto now { manifest with files := files.names.map (manifestFile crypto files) }

def orError {α : Type} (err : BundleError) : Option α → Except BundleError α
  | some a => .ok a
  | none => .error err

variable (F : Formats) (crypto : Crypto)

def buildTarGzipBundle (now : Time) (manifest : Manifest) (files : FileMap) : Except BundleError Bundle := do
  let manifest := bundleManifest crypto now manifest files
  let marshalled ← orError .marshal (F.marshalIndent manifest)
  let manifestBytes := marshalled ++ [0x0a]
  let first ← writeTarFile "manifest.json" manifestBytes
  let rest ← files.names.mapM fun name ↦ writeTarFile name (files.read name)
  let bytes ← orError .archive (F.writeTarGzip (first :: rest))
  return ⟨bytes, manifestBytes, sha256 crypto manifestBytes, sha256 crypto bytes, manifest.files⟩

/-! ## Verifying -/

structure BundleVerification where
  valid : Bool
  manifestSHA256 : String
  (checkedFiles checkedChainEntries : Nat)
  failures : List String
  deriving DecidableEq, Repr

/-- A result with more failures; any failure makes it invalid. -/
def BundleVerification.report (result : BundleVerification) (failures : List String) : BundleVerification :=
  { result with valid := result.valid && failures.isEmpty, failures := result.failures ++ failures }

def unsafeName (name : String) : Bool := name == "" || hasPrefix name "/" || contains name ".."

/-- One round of the loop of `readTarGzipFiles`. -/
def addFile (files : FileMap) (entry : TarEntry) : Except BundleError FileMap :=
  if entry.type ≠ .regular then .ok files
  else if unsafeName entry.name then .error (.unsafeName entry.name)
  else .ok (files.insert entry.name entry.data)

def readTarGzipFiles (body : Bytes) : Except BundleError FileMap := do
  let entries ← orError .archive (F.readTarGzip body)
  entries.foldlM addFile ∅

/-- A failure under a condition. -/
def failWhen (condition : Bool) (failure : String) : List String := if condition then [failure] else []

def validateManifest (manifest : Manifest) : List String :=
  failWhen (manifest.schemaVersion != manifestSchemaV1) ("unsupported manifest schema_version: " ++ manifest.schemaVersion) ++
    failWhen (manifest.bundleID == "") "bundle_id is missing" ++
    failWhen (manifest.tenantIDHash == "") "tenant_id_hash is missing" ++
    failWhen manifest.nonClaims.isEmpty "non_claims are missing" ++
    failWhen (manifest.redactionPolicy == .zero) "redaction_policy is missing" ++
    failWhen manifest.hashes.isNone "hashes are missing"

/-- What is wrong with a file that is there. -/
def fileFailures (hashes : Option (Finmap fun _ : String ↦ String)) (file : ManifestFile) (body : Bytes) :
    List String :=
  failWhen (sha256 crypto body != file.sha256) ("hash mismatch: " ++ file.name) ++
    failWhen ((body.length : Int) != file.sizeBytes) ("size mismatch: " ++ file.name) ++
    match hashes.bind fun h ↦ h.lookup file.name with
    | none => ["manifest hash missing: " ++ file.name]
    | some want => failWhen (want != file.sha256) ("manifest hash mismatch: " ++ file.name)

/-- One round of the loop over the files of the manifest. -/
def checkFile (hashes : Option (Finmap fun _ : String ↦ String)) (files : FileMap) (result : BundleVerification)
    (file : ManifestFile) : BundleVerification :=
  match files.lookup file.name with
  | none => result.report ["missing file: " ++ file.name]
  | some body =>
    { result.report (fileFailures crypto hashes file body) with checkedFiles := result.checkedFiles + 1 }

/-- The variables of `verifyAuditChainProof`. -/
structure ProofWalk where
  failures : List String
  previous : String
  expectedSequence : Int
  checked : Nat
  deriving DecidableEq, Repr

/-- What is wrong with an entry; a walk that has not begun expects the first number it meets. -/
def proofFailures (w : ProofWalk) (entry : AuditChainEntry) : List String :=
  let expectedSequence := if w.expectedSequence = 0 then entry.sequence else w.expectedSequence
  failWhen (entry.sequence != expectedSequence) ("chain proof missing sequence " ++ formatInt expectedSequence) ++
    failWhen (entry.previousChainHash != previousHashForSequence entry.sequence w.previous)
      ("chain proof previous hash mismatch at " ++ formatInt entry.sequence) ++
    failWhen (chainHash crypto entry.previousChainHash entry.eventHash != entry.chainHash)
      ("chain proof hash mismatch at " ++ formatInt entry.sequence)

/-- One round of the loop of `verifyAuditChainProof`. -/
def checkProofEntry (w : ProofWalk) (entry : AuditChainEntry) : ProofWalk where
  failures := w.failures ++ proofFailures crypto w entry
  previous := entry.chainHash
  expectedSequence := entry.sequence + 1
  checked := w.checked + 1

def verifyAuditChainProof (entries : List AuditChainEntry) : ProofWalk :=
  entries.foldl (checkProofEntry crypto) ⟨[], "", 0, 0⟩

/-- The result for a manifest and the files beside it. -/
def verifyFiles (manifestBytes : Bytes) (manifest : Manifest) (files : FileMap) : BundleVerification :=
  let result : BundleVerification := ⟨true, sha256 crypto manifestBytes, 0, 0, []⟩
  manifest.files.foldl (checkFile crypto manifest.hashes files) (result.report (validateManifest manifest))

def verifyTarGzipFiles (files : FileMap) : Except BundleError BundleVerification :=
  match files.lookup "manifest.json" with
  | none => .ok ((⟨true, "", 0, 0, []⟩ : BundleVerification).report ["manifest.json is missing"])
  | some manifestBytes => do
    let manifest ← orError .manifest (F.unmarshal manifestBytes)
    let result := verifyFiles crypto manifestBytes manifest files
    match files.lookup "audit_chain_proof.jsonl" with
    | none => return result
    | some proof =>
      let entries ← orError .chainProof (F.decodeLines proof)
      let walk := verifyAuditChainProof crypto entries
      return { result with checkedChainEntries := walk.checked }.report walk.failures

def verifyTarGzipBundle (body : Bytes) : Except BundleError BundleVerification := do
  let files ← readTarGzipFiles F body
  verifyTarGzipFiles F crypto files

end Webhookery.Evidence
