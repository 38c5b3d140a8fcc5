import Webhookery.Store.Ingest
import Webhookery.Store.Sources

/-!
# Ingesting a request

`IngestService` of `internal/app/service.go`: choosing the adapter of a source, trying its
secrets, taking the event id and type from the request, and preparing the input of
`CaptureInbound`. Normalization may not end, so the results that depend on it take fuel.
-/

namespace Webhookery.App

open Go Provider Store

structure IngestRequest where
  rawBody : Bytes
  headers : List HeaderPair
  (contentType remoteIP : String)

/-- The time a capture read, and the time an adapter reads itself when it was given none. -/
structure Clock where
  (now wall : Time)

/-! ## Verification -/

inductive Adapter where
  | builtIn (adapter : BuiltIn)
  | declarative (definition : DeclarativeDefinition)

def Adapter.verify (crypto : Crypto) : Adapter → VerifyInput → VerifyResult
  | .builtIn b => b.verify crypto
  | .declarative d => declarativeVerify crypto d

/-- The adapter of a capture, with the definition it was built from, if any. -/
structure ResolvedAdapter where
  adapter : Adapter
  definition : Bytes

/-- The adapter of a declarative version that was looked up. -/
def declarativeAdapter (version : Option AdapterVersion) : Option ResolvedAdapter := do
  let v ← version
  if v.declarative && v.state == .active then
    let d ← parseDeclarativeDefinition v.definition
    return ⟨.declarative d, v.definition⟩
  else none

/-- The built-in adapter of the adapter name, then that of the provider name, then the declarative
one; `generic-unsafe` when there is none. -/
def resolveAdapter (source : Source) (version : Option AdapterVersion) : ResolvedAdapter :=
  match builtInAdapter source.adapter with
  | some b => ⟨.builtIn b, []⟩
  | none =>
    match builtInAdapter source.provider with
    | some b => ⟨.builtIn b, []⟩
    | none => (declarativeAdapter version).getD ⟨.builtIn .genericUnsafe, []⟩

/-- The secrets a capture tries; a source without one is tried with the empty secret. -/
def secretsToTry (source : LoadedSource) : List Bytes :=
  if source.verificationSecrets ≠ [] then source.verificationSecrets
  else if source.verificationSecret ≠ [] then [source.verificationSecret]
  else [[]]

/-- The first result that verified, or else the last one. -/
def firstVerified (verify : Bytes → VerifyResult) (last : VerifyResult) : List Bytes → VerifyResult
  | [] => last
  | secret :: rest =>
    if (verify secret).verified then verify secret else firstVerified verify (verify secret) rest

def verifyInput (clock : Clock) (req : IngestRequest) (secret : Bytes) : VerifyInput where
  rawBody := req.rawBody
  headers := canonicalHeaders req.headers
  secret := secret
  now := clock.now
  wallClock := clock.wall

/-- The verdict of a capture. -/
def verifyRequest (crypto : Crypto) (clock : Clock) (source : LoadedSource) (adapter : Adapter)
    (req : IngestRequest) : VerifyResult :=
  firstVerified (fun secret ↦ adapter.verify crypto (verifyInput clock req secret))
    (result "" false Verifier.reasonMissingSignature) (secretsToTry source)

/-! ## Metadata -/

/-- The first value of a header. -/
def headerValue (headers : Headers) (name : String) : String :=
  match headers.lookup (toLower name) with
  | some (value :: _) => value
  | _ => ""

/-- The event id and type in a body; a body that does not decode has none. -/
def extractEventMetadata (raw : Bytes) : String × String :=
  let (payload, ok) := Value.unmarshalMap raw
  if !ok then ("", "")
  else
    let eventType := stringValue payload "type"
    let nested := match (Value.lookup payload "event").asMap with
      | some event => stringValue event "type"
      | none => ""
    (orElseString (stringValue payload "id") (stringValue payload "event_id"),
      orElseString eventType nested)

def extractEventMetadataForProvider (adapter : String) (raw : Bytes) (headers : Headers) : String × String :=
  let id := headerValue headers "ce-id"
  let eventType := headerValue headers "ce-type"
  if equalFold adapter "cloudevents" ∧ (id ≠ "" ∨ eventType ≠ "") then (id, eventType)
  else
    let (providerID, eventType) := extractEventMetadata raw
    let eventType := orElseString eventType (headerValue headers "x-github-event")
    let providerID :=
      if providerID = "" ∧ equalFold adapter "github" then headerValue headers "x-github-delivery"
      else providerID
    let providerID :=
      if providerID = "" ∧ equalFold adapter "shopify" then headerValue headers "x-shopify-webhook-id"
      else providerID
    (providerID, eventType)

/-- The event id and type of a request; the extractors of a declarative adapter come first. -/
def requestMetadata (source : Source) (definition : Bytes) (req : IngestRequest) : String × String :=
  let headers := canonicalHeaders req.headers
  let (providerEventID, eventType) :=
    extractEventMetadataForProvider source.adapter req.rawBody headers
  if definition = [] then (providerEventID, eventType)
  else
    let (id, type) := declarativeMetadata definition req.rawBody headers
    (orElseString id providerEventID, orElseString type eventType)

/-- The key of a request: its event id, or the hash of its body when it has none. -/
def dedupeKey (source : Source) (providerID rawHash : String) : String :=
  ":".intercalate
    [source.provider, source.tenantID, source.id, if providerID ≠ "" then providerID else rawHash]

/-! ## The input of a capture -/

section

variable (crypto : Crypto) (fuel : Nat) (clock : Clock) (source : LoadedSource)
  (version : Option AdapterVersion) (req : IngestRequest)

def requestNormalizeInput (definition : Bytes) (verify : VerifyResult) : NormalizeInput where
  adapter := source.row.adapter
  provider := source.row.provider
  tenantID := source.row.tenantID
  sourceID := source.row.id
  rawBody := req.rawBody
  headers := canonicalHeaders req.headers
  verified := verify.verified
  verifyReason := verify.reason
  rawHash := hashSHA256 crypto req.rawBody
  adapterDefinition := definition

/-- The normalized envelope of a request that verified; an error leaves none, and a request that
did not verify is not normalized. The outer none means that normalization did not end. -/
def requestEnvelope (definition : Bytes) (verify : VerifyResult) : Option (Option NormalizedEnvelope) :=
  if !verify.verified then some none
  else
    match normalize crypto fuel (requestNormalizeInput crypto source req definition verify) with
    | .ok n => some (some n)
    | .error => some none
    | .diverged => none

/-- The input built from the verdict, the metadata and the envelope of a request. -/
def buildInput (verify : VerifyResult) (metadata : String × String)
    (envelope : Option NormalizedEnvelope) : CaptureInboundInput where
  tenantID := source.row.tenantID
  sourceID := source.row.id
  provider := source.row.provider
  adapter := source.row.adapter
  body := req.rawBody
  sha256 := hashSHA256 crypto req.rawBody
  contentType := req.contentType
  createdAt := clock.now
  rawHeaders := req.headers
  remoteIP := req.remoteIP
  receivedAt := clock.now
  eventType := (envelope.map (orElseString metadata.2 ·.type)).getD metadata.2
  providerEventID := (envelope.map (orElseString metadata.1 ·.providerEventID)).getD metadata.1
  dedupeKey := dedupeKey source.row metadata.1 (hashSHA256 crypto req.rawBody)
  normalized := envelope
  verificationOK := verify.verified
  verifyReason := verify.reason

/-- What `capture` passes to `CaptureInbound`; none when normalization did not end. -/
def captureInput : Option CaptureInboundInput :=
  let resolved := resolveAdapter source.row version
  let verify := verifyRequest crypto clock source resolved.adapter req
  (requestEnvelope crypto fuel source req resolved.definition verify).map
    (buildInput crypto clock source req verify (requestMetadata source.row resolved.definition req))

end

/-! ## Ingest -/

structure IngestResult where
  accepted : Bool
  (eventID receiptID rawPayloadID verifyReason : String)
  dedupeStatus : DedupeStatus
  deriving DecidableEq, Repr

section

variable (crypto : Crypto) (fuel : Nat) (clock : Clock) (env : Env) (req : IngestRequest)

/-- `capture`; none when it did not end. -/
def capture (source : LoadedSource) (db : DB) : Option (Except StoreError (IngestResult × DB)) :=
  if source.row.state ≠ .active then some (.error (.invalidInput "source is not active"))
  else do
    let version := activeDeclarativeAdapterVersion source.row.tenantID source.row.adapter db
    let input ← captureInput crypto fuel clock source version req
    return (captureInbound env input db).map fun (result, db) ↦
      (⟨input.verificationOK || source.row.adapter == "cloudevents", result.eventID,
        result.receiptID, result.rawPayloadID, input.verifyReason, result.dedupeStatus⟩, db)

def ingest (tenantID sourceID : String) (db : DB) : Option (Except StoreError (IngestResult × DB)) :=
  match findSource env.now tenantID sourceID db with
  | .error e => some (.error e)
  | .ok source => capture crypto fuel clock env req source db

def ingestProviderPath (provider sourceID : String) (db : DB) : Option (Except StoreError (IngestResult × DB)) :=
  match findSourceByProviderPath env.now provider sourceID db with
  | .error e => some (.error e)
  | .ok source => capture crypto fuel clock env req source db

end

/-! ## What a capture records -/

theorem firstVerified_eq_true_iff (hlast : last.verified = false) :
    (firstVerified verify last secrets).verified = true ↔
      ∃ secret ∈ secrets, (verify secret).verified = true := by
  induction secrets generalizing last with
  | nil => simp [firstVerified, hlast]
  | cons _ _ ih =>
    unfold firstVerified
    split
    case isTrue h => simp [h]
    case isFalse h =>
      rw [ih (Bool.eq_false_iff.mpr h)]
      simp [h]

section

variable {crypto : Crypto} {fuel : Nat} {clock : Clock} {source : LoadedSource}
  {version : Option AdapterVersion} {req : IngestRequest} {input : CaptureInboundInput}

/-- The parts of the input of a capture. -/
theorem captureInput_eq_some (h : captureInput crypto fuel clock source version req = some input) :
    ∃ verify envelope,
      verify = verifyRequest crypto clock source (resolveAdapter source.row version).adapter req ∧
      requestEnvelope crypto fuel source req (resolveAdapter source.row version).definition verify =
        some envelope ∧
      input = buildInput crypto clock source req verify
        (requestMetadata source.row (resolveAdapter source.row version).definition req) envelope := by
  obtain ⟨envelope, henvelope, hinput⟩ := Option.map_eq_some_iff.mp h
  exact ⟨_, envelope, rfl, henvelope, hinput.symm⟩

/-- The definition of a resolved adapter is empty or valid. -/
theorem definition_resolveAdapter (row : Source) (version : Option AdapterVersion) :
    (resolveAdapter row version).definition = [] ∨
      ∃ d, parseDeclarativeDefinition (resolveAdapter row version).definition = some d := by
  unfold resolveAdapter
  split
  · exact .inl rfl
  · split
    · exact .inl rfl
    · cases hresolved : declarativeAdapter version with
      | none => exact .inl rfl
      | some =>
        right
        obtain ⟨_, -, hv⟩ := Option.bind_eq_some_iff.mp hresolved
        split at hv
        case isTrue =>
          obtain ⟨d, hd, hresult⟩ := Option.bind_eq_some_iff.mp hv
          cases hresult
          exact ⟨d, hd⟩
        case isFalse => cases hv

/-- The values that normalization takes from a request; none when rendering did not end. -/
def extract (fuel : Nat) (input : NormalizeInput) : Option Extracted :=
  if input.adapterDefinition = [] then some (extractBuiltIn input)
  else (parseDeclarativeDefinition input.adapterDefinition).bind (extractDeclarative fuel input)

/-- Under a definition that is valid or absent, normalizing a verified request only fails to end. -/
theorem normalize_of_verified {input : NormalizeInput} (hverified : input.verified = true)
    (hdefinition : input.adapterDefinition = [] ∨
      ∃ d, parseDeclarativeDefinition input.adapterDefinition = some d) :
    normalize crypto fuel input = match extract fuel input with
      | none => .diverged
      | some x => .ok (buildEnvelope crypto input x) := by
  have hallowed : ¬((!input.verified) = true ∧
      input.verifyReason ≠ verificationReasonProviderAPIReconcile ∧
      input.adapterName ≠ "generic-unsafe") := by
    rw [hverified]
    exact fun h ↦ Bool.false_ne_true h.1
  unfold Provider.normalize extract
  rw [if_neg hallowed]
  rcases hdefinition with hnil | ⟨d, hd⟩
  · rw [if_pos hnil, if_neg (not_not.mpr hnil)]
  · have hne : input.adapterDefinition ≠ [] := fun hnil ↦ by simp [hnil, parseDeclarativeDefinition] at hd
    rw [if_pos hne, if_neg hne, hd]
    rfl

theorem requestEnvelope_of_verified (hverified : verify.verified = true)
    (hdefinition : definition = [] ∨ ∃ d, parseDeclarativeDefinition definition = some d) :
    requestEnvelope crypto fuel source req definition verify =
      (extract fuel (requestNormalizeInput crypto source req definition verify)).map fun x ↦
        some (buildEnvelope crypto (requestNormalizeInput crypto source req definition verify) x) := by
  unfold requestEnvelope
  rw [hverified, Bool.not_true, if_neg Bool.false_ne_true,
    normalize_of_verified hverified hdefinition]
  cases extract fuel (requestNormalizeInput crypto source req definition verify) <;> rfl

/-- A request that verified has an envelope. -/
theorem normalized_isSome_of_verificationOK
    (h : captureInput crypto fuel clock source version req = some input)
    (hverified : input.verificationOK = true) : ∃ n, input.normalized = some n := by
  obtain ⟨_, _, -, henvelope, rfl⟩ := captureInput_eq_some h
  rw [requestEnvelope_of_verified hverified (definition_resolveAdapter source.row version)] at henvelope
  obtain ⟨x, -, rfl⟩ := Option.map_eq_some_iff.mp henvelope
  exact ⟨_, rfl⟩

end

/-- A committed capture read an active source and committed the input prepared from it. -/
theorem capture_eq_ok {crypto : Crypto} {fuel : Nat} {clock : Clock} {env : Env}
    {req : IngestRequest} {source : LoadedSource} {db db' : DB} {result : IngestResult}
    (h : capture crypto fuel clock env req source db = some (.ok (result, db'))) :
    source.row.state = .active ∧ ∃ input committed,
      captureInput crypto fuel clock source
        (activeDeclarativeAdapterVersion source.row.tenantID source.row.adapter db) req = some input ∧
      captureInbound env input db = .ok (committed, db') ∧
      result.eventID = committed.eventID ∧ result.receiptID = committed.receiptID ∧
      result.rawPayloadID = committed.rawPayloadID ∧ result.dedupeStatus = committed.dedupeStatus := by
  unfold capture at h
  split at h
  case isTrue => cases h
  case isFalse hactive =>
    obtain ⟨input, hinput, h⟩ := Option.bind_eq_some_iff.mp h
    cases hcommit : captureInbound env input db with
    | error => simp [hcommit, Except.map, pure] at h
    | ok committed =>
      obtain ⟨committed, _⟩ := committed
      simp only [hcommit, Except.map, pure, Option.some.injEq, Except.ok.injEq, Prod.mk.injEq] at h
      obtain ⟨rfl, rfl⟩ := h
      exact ⟨Decidable.not_not.mp hactive, input, committed, hinput, hcommit, rfl, rfl, rfl, rfl⟩

end Webhookery.App
