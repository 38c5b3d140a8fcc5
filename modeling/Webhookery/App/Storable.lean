import Webhookery.Store.Acceptance
import Webhookery.App.Verdict

/-!
# Requests that can be stored

Which requests `Ingest` commits. The texts and documents of a capture come from the source, from
fixed reasons and hashes, and from the request; only the last can hold a zero character. A request
is committed exactly when nothing that the capture takes from it does, and the template of its
source text renders.
-/

namespace Webhookery.App

open Go Provider Store Relational

/-! ## Reasons -/

/-- The texts that say why a request verified or did not. -/
def fixedReasons : List String :=
  [Verifier.reasonOK, Verifier.reasonMissingSignature, Verifier.reasonMalformedHeader,
    Verifier.reasonExpiredTimestamp, Verifier.reasonInvalidSignature, Verifier.reasonUnsupportedAlg,
    verificationReasonUnsignedCloudEvents, "missing_cloudevents_headers", "unsafe_adapter_disabled"]

theorem verifyTimestampedHMAC_reason (crypto : Crypto) (input : Verifier.VerifyTimestampedHMACInput) :
    (Verifier.verifyTimestampedHMAC crypto input).reason ∈ fixedReasons := by
  unfold Verifier.verifyTimestampedHMAC
  dsimp only
  repeat' split
  all_goals simp [fixedReasons]

theorem builtIn_verify_reason (crypto : Crypto) (b : BuiltIn) (input : VerifyInput) :
    (b.verify crypto input).reason ∈ fixedReasons := by
  cases b with
  | stripe =>
    simp only [BuiltIn.verify, stripeVerify]
    split
    · simp [fixedReasons, result]
    · exact verifyTimestampedHMAC_reason crypto _
  | gitHub | shopify | slack | genericHMAC | genericJWT | cloudEvents | genericUnsafe =>
    simp only [BuiltIn.verify, gitHubVerify, shopifyVerify, slackVerify, genericHMACVerify, genericJWTVerify, checkClaims,
      cloudEventsVerify, unsafeVerify]
    repeat' split
    all_goals simp [fixedReasons, result]
  | internalTrusted => exact List.mem_cons_self

theorem declarativeVerify_reason (crypto : Crypto) (d : DeclarativeDefinition) (input : VerifyInput) :
    (declarativeVerify crypto d input).reason ∈ fixedReasons := by
  unfold declarativeVerify
  dsimp only
  repeat' split
  all_goals simp [fixedReasons, result]

theorem firstVerified_reason (hverify : ∀ secret, (verify secret).reason ∈ fixedReasons)
    (hlast : last.reason ∈ fixedReasons) :
    (firstVerified verify last secrets).reason ∈ fixedReasons := by
  induction secrets generalizing last with
  | nil => exact hlast
  | cons secret _ ih =>
    unfold firstVerified
    split
    · exact hverify secret
    · exact ih (hverify secret)

theorem textAccepts_verifyRequest_reason (crypto : Crypto) (clock : Clock) (source : LoadedSource)
    (adapter : Adapter) (req : IngestRequest) :
    textAccepts (verifyRequest crypto clock source adapter req).reason = true := by
  have hplain : ∀ reason ∈ fixedReasons, textAccepts reason = true := by decide
  apply hplain
  refine firstVerified_reason (fun _ ↦ ?_) (by simp [fixedReasons, result])
  cases adapter with
  | builtIn b => exact builtIn_verify_reason crypto b _
  | declarative d => exact declarativeVerify_reason crypto d _

/-! ## Documents -/

theorem textAccepts_eq_true : textAccepts s = true ↔ hasNul s = false := by
  rw [textAccepts, Bool.not_eq_true']

theorem jsonbAccepts_marshal {v : Value} : jsonbAccepts v.marshal = true ↔ v.hasNul = false := by
  rw [jsonbAccepts, Value.hasNulEscape_marshal, Bool.not_eq_true']

theorem textAccepts_hashSHA256 (crypto : Crypto) (body : Bytes) : textAccepts (hashSHA256 crypto body) = true := by
  have hlabel : hasNul "sha256:" = false := by decide
  rw [textAccepts_eq_true, hashSHA256, hasNul_append, hasNul_hexEncode, hlabel, Bool.or_false]

/-- Whether a value taken from a request holds the zero character. -/
def extractedHasNul (x : Extracted) : Bool :=
  [x.id, x.type, x.source, x.subject].any hasNul || x.data.hasNul || (Value.obj x.metadata).hasNul

variable {input : NormalizeInput} {env : Env}

theorem hasNul_envelopeDocument :
    (Value.obj (envelopeDocument input x)).hasNul = false ↔
      (∀ text ∈ [input.tenantID, input.sourceID, input.provider, input.rawHash, input.verifyReason],
        hasNul text = false) ∧ extractedHasNul x = false := by
  have hkeys : ∀ key ∈ ["specversion", "1.0", "id", "type", "source", "subject", "tenant_id",
      "source_id", "provider", "provider_event_id", "raw_payload_hash", "signature_verified",
      "verification_reason", "data", "metadata"], hasNul key = false := by decide
  simp only [List.forall_mem_cons] at hkeys
  have hdistinct : ((envelopeEntries input x).map Prod.fst).Nodup := by
    simp only [envelopeEntries, List.map_cons, List.map_nil]
    decide
  rw [Value.hasNul, envelopeDocument, Value.hasNulMembers_ofMembers hdistinct]
  simp only [envelopeEntries, Value.hasNulMembers, Value.hasNul, extractedHasNul, hkeys,
    List.any_cons, List.any_nil, Bool.or_false, Bool.false_or, Bool.or_eq_false_iff, List.forall_mem_cons]
  grind

/-- An envelope is accepted when neither its source nor its request holds a zero character. -/
theorem normalizedAccepts_buildEnvelope {crypto : Crypto}
    {x : Extracted} {tenantID eventID versionID : String} {createdAt : Time}
    (hinput : ∀ text ∈ [input.tenantID, input.sourceID, input.provider, input.rawHash,
      input.verifyReason], hasNul text = false) :
    normalizedAccepts (normalizedRow env tenantID eventID versionID (buildEnvelope crypto input x)
      createdAt) = true ↔ extractedHasNul x = false := by
  have hprovider : hasNul input.provider = false := hinput _ (by simp)
  have hdocument : (Value.obj (envelopeDocument input x)).hasNul = false ↔ _ ∧ extractedHasNul x = false :=
    hasNul_envelopeDocument
  rw [and_iff_right hinput] at hdocument
  simp only [normalizedAccepts, normalizedRow, buildEnvelope, List.all_cons, List.all_nil,
    Bool.and_true, Bool.and_eq_true, textAccepts_eq_true, jsonbAccepts_marshal, hdocument, hprovider, extractedHasNul,
    List.any_cons, List.any_nil, Bool.or_false, Bool.or_eq_false_iff]
  grind

theorem jsonbAccepts_headersJSON :
    jsonbAccepts (headersJSON headers) = true ↔
      ∀ h ∈ headers, hasNul h.name = false ∧ hasNul h.value = false := by
  have hkeys : hasNul "name" = false ∧ hasNul "value" = false := by decide
  rw [headersJSON, jsonbAccepts_marshal, Value.hasNul]
  induction headers with
  | nil => simp [Value.hasNulItems]
  | cons _ _ ih =>
    simp only [List.map_cons, Value.hasNulItems, Value.hasNul, Value.hasNulMembers, hkeys,
      Bool.or_false, Bool.false_or, Bool.or_eq_false_iff, ih, List.forall_mem_cons]

section

variable {crypto : Crypto} {fuel : Nat} {clock : Clock} {source : LoadedSource}
  {version : Option AdapterVersion} {req : IngestRequest} {definition : Bytes} {verify : VerifyResult}
  {resolved : ResolvedAdapter}

/-! ## What a capture writes -/

/-- The text columns of a source hold no zero character. -/
def SourceStored (s : Source) : Prop :=
  hasNul s.id = false ∧ hasNul s.tenantID = false ∧ hasNul s.provider = false

theorem hasNul_dedupeKey (hrow : SourceStored row)
    (hhash : hasNul rawHash = false) (hid : hasNul providerID = false) :
    hasNul (dedupeKey row providerID rawHash) = false := by
  have hcolon : hasNul ":" = false := by decide
  have hlast : hasNul (if providerID ≠ "" then providerID else rawHash) = false := by
    split
    · exact hid
    · exact hhash
  have hkey : dedupeKey row providerID rawHash = row.provider ++ ":" ++ row.tenantID ++ ":" ++ row.id ++
      ":" ++ (if providerID ≠ "" then providerID else rawHash) := rfl
  rw [hkey]
  simp only [hasNul_append, hcolon, hlast, hrow.1, hrow.2.1, hrow.2.2, Bool.or_self]

theorem hasNul_orUnknown (text : String) : hasNul (if text = "" then "unknown" else text) = hasNul text := by
  split
  case isTrue h =>
    rw [h]
    decide
  case isFalse => rfl

/-- The identifier and the type that the event of a request records. -/
def recordedMetadata (metadata : String × String) (x : Option Extracted) : String × String :=
  ((x.map (orElseString metadata.1 ·.id)).getD metadata.1,
    (x.map (orElseString metadata.2 ·.type)).getD metadata.2)

theorem hasNul_of_hasNul_recordedMetadata
    (h : hasNul (recordedMetadata metadata x).1 = false) : hasNul metadata.1 = false := by
  by_cases hempty : metadata.1 = ""
  · rw [hempty]
    decide
  · cases x with
    | none => exact h
    | some x =>
      change hasNul (if metadata.1 = "" then x.id else metadata.1) = false at h
      rwa [if_neg hempty] at h

/-- Nothing that a capture takes from a request holds the zero character: its content type, address
and headers, the recorded identifier and type, and for a new event the values of its envelope. -/
structure PlainRequest (req : IngestRequest) (metadata : String × String) (x : Option Extracted)
    (isNew : Prop) : Prop where
  contentType : hasNul req.contentType = false
  remoteIP : hasNul req.remoteIP = false
  headers : ∀ h ∈ req.headers, hasNul h.name = false ∧ hasNul h.value = false
  id : hasNul (recordedMetadata metadata x).1 = false
  type : hasNul (recordedMetadata metadata x).2 = false
  envelope : isNew → ∀ y ∈ x, extractedHasNul y = false

section

variable {env : Env} {db : DB} {metadata : String × String} {x : Option Extracted}

/-- The input of a capture from the values that were extracted. -/
def inputOf (crypto : Crypto) (clock : Clock) (source : LoadedSource) (req : IngestRequest)
    (definition : Bytes) (verify : VerifyResult) (metadata : String × String) (x : Option Extracted) :
    CaptureInboundInput :=
  buildInput crypto clock source req verify metadata
    (x.map (buildEnvelope crypto (requestNormalizeInput crypto source req definition verify)))

/-- The texts of the event, those of the source and the reason apart. -/
theorem eventAccepts_inputOf (hrow : SourceStored source.row) (hreason : textAccepts verify.reason = true) :
    eventAccepts (captureEventRow env
        (inputOf crypto clock source req definition verify metadata x)) = true ↔
      hasNul (recordedMetadata metadata x).1 = false ∧ hasNul (recordedMetadata metadata x).2 = false := by
  have hhash := textAccepts_eq_true.mp (textAccepts_hashSHA256 crypto req.rawBody)
  have hmetadata : (inputOf crypto clock source req definition verify metadata x).providerEventID =
        (recordedMetadata metadata x).1 ∧
      (inputOf crypto clock source req definition verify metadata x).eventType =
        (recordedMetadata metadata x).2 := by
    cases x <;> exact ⟨rfl, rfl⟩
  have hkey (hid : hasNul (recordedMetadata metadata x).1 = false) :
      hasNul (dedupeKey source.row metadata.1 (hashSHA256 crypto req.rawBody)) = false :=
    hasNul_dedupeKey hrow hhash (hasNul_of_hasNul_recordedMetadata hid)
  have htexts : eventAccepts (captureEventRow env
      (inputOf crypto clock source req definition verify metadata x)) =
      [source.row.tenantID, source.row.id, source.row.provider,
        if (recordedMetadata metadata x).2 = "" then "unknown" else (recordedMetadata metadata x).2,
        (recordedMetadata metadata x).1, hashSHA256 crypto req.rawBody, verify.reason,
        dedupeKey source.row metadata.1 (hashSHA256 crypto req.rawBody)].all textAccepts := by
    rw [← hmetadata.1, ← hmetadata.2]
    rfl
  rw [htexts]
  simp only [List.all_cons, List.all_nil, Bool.and_true, Bool.and_eq_true, textAccepts_eq_true,
    hasNul_orUnknown, hrow.1, hrow.2.1, hrow.2.2, hhash, textAccepts_eq_true.mp hreason, true_and]
  constructor
  · rintro ⟨htype, hid, -⟩
    exact ⟨hid, htype⟩
  · rintro ⟨hid, htype⟩
    exact ⟨htype, hid, hkey hid⟩

theorem envelope_accepted_iff (hrow : SourceStored source.row) (hreason : textAccepts verify.reason = true) :
    (∀ row ∈ captureEnvelopeRow env (inputOf crypto clock source req definition verify metadata x)
        versionID, normalizedAccepts row = true) ↔ ∀ y ∈ x, extractedHasNul y = false := by
  have hinput : ∀ text ∈ [source.row.tenantID, source.row.id, source.row.provider,
      hashSHA256 crypto req.rawBody, verify.reason], hasNul text = false := by
    simp only [List.forall_mem_cons]
    refine ⟨hrow.2.1, hrow.1, hrow.2.2, ?_, textAccepts_eq_true.mp hreason, by simp⟩
    exact textAccepts_eq_true.mp (textAccepts_hashSHA256 crypto req.rawBody)
  cases x with
  | none => constructor <;> rintro - _ ⟨⟩
  | some y =>
    have hbuilt : captureEnvelopeRow env
        (inputOf crypto clock source req definition verify metadata (some y)) versionID =
        some (normalizedRow env source.row.tenantID (env.mustID "evt" 0) versionID
          (buildEnvelope crypto (requestNormalizeInput crypto source req definition verify) y)
          clock.now) := rfl
    rw [hbuilt]
    simp only [Option.mem_def, Option.some.injEq, forall_eq']
    exact normalizedAccepts_buildEnvelope hinput

theorem captureAccepts_inputOf (hrow : SourceStored source.row) (hreason : textAccepts verify.reason = true) :
    CaptureAccepts env (inputOf crypto clock source req definition verify metadata x) db ↔
      PlainRequest req metadata x (db.events.byIndex (source.row.tenantID,
        dedupeKey source.row metadata.1 (hashSHA256 crypto req.rawBody)) = none) := by
  have hraw : [source.row.tenantID, hashSHA256 crypto req.rawBody, req.contentType].all textAccepts = true ↔
      hasNul req.contentType = false := by
    simp [textAccepts_hashSHA256, textAccepts_eq_true, hrow.2.1]
  have hreceipt : (textAccepts req.remoteIP && textAccepts verify.reason &&
      jsonbAccepts (headersJSON req.headers)) = true ↔
      hasNul req.remoteIP = false ∧ ∀ h ∈ req.headers, hasNul h.name = false ∧ hasNul h.value = false := by
    rw [hreason, Bool.and_true, Bool.and_eq_true, textAccepts_eq_true, jsonbAccepts_headersJSON]
  constructor
  · intro h
    obtain ⟨hip, hheaders⟩ := hreceipt.mp h.receipt
    obtain ⟨hid, htype⟩ := (eventAccepts_inputOf hrow hreason).mp h.event
    refine ⟨hraw.mp h.raw, hip, hheaders, hid, htype, fun hnew ↦ ?_⟩
    exact (envelope_accepted_iff hrow hreason).mp (h.envelope hnew)
  · intro h
    refine ⟨hraw.mpr h.contentType, (eventAccepts_inputOf hrow hreason).mpr ⟨h.id, h.type⟩, fun hnew ↦ ?_,
      hreceipt.mpr ⟨h.remoteIP, h.headers⟩⟩
    exact (envelope_accepted_iff hrow hreason).mpr (h.envelope hnew)

end

/-! ## Ingest -/

section

variable (crypto : Crypto) (fuel : Nat) (clock : Clock) (source : LoadedSource)
  (version : Option AdapterVersion) (req : IngestRequest)

/-- The values that a capture takes from a request for its envelope: none of them when the request
did not verify. The outer none means that rendering did not end. -/
def requestExtracted : Option (Option Extracted) :=
  let resolved := resolveAdapter source.row version
  let verify := verifyRequest crypto clock source resolved.adapter req
  if verify.verified then
    (extract fuel (requestNormalizeInput crypto source req resolved.definition verify)).map some
  else some none

theorem captureInput_eq_map : captureInput crypto fuel clock source version req =
    (requestExtracted crypto fuel clock source version req).map
      (inputOf crypto clock source req (resolveAdapter source.row version).definition
        (verifyRequest crypto clock source (resolveAdapter source.row version).adapter req)
        (requestMetadata source.row (resolveAdapter source.row version).definition req)) := by
  unfold captureInput requestExtracted
  dsimp only
  cases hverified : (verifyRequest crypto clock source
      (resolveAdapter source.row version).adapter req).verified with
  | true =>
    rw [requestEnvelope_of_verified hverified (definition_resolveAdapter source.row version),
      if_pos rfl, Option.map_map, Option.map_map]
    rfl
  | false =>
    unfold requestEnvelope
    rw [hverified, Bool.not_false, if_pos rfl, if_neg Bool.false_ne_true]
    rfl

/-- The values of the request are found, and nothing that is stored of it holds the zero
character. -/
def Storable (db : DB) : Prop :=
  ∃ x, requestExtracted crypto fuel clock source version req = some x ∧
    PlainRequest req (requestMetadata source.row (resolveAdapter source.row version).definition req) x
      (db.events.byIndex (source.row.tenantID, dedupeKey source.row
        (requestMetadata source.row (resolveAdapter source.row version).definition req).1
        (hashSHA256 crypto req.rawBody)) = none)

end

/-- The payload with the body of the request, the receipt and the event of a capture are there. -/
structure Evidence (req : IngestRequest) (result : IngestResult) (db' : DB) : Prop where
  raw : ∃ r ∈ db'.rawPayloads, r.id = result.rawPayloadID ∧ r.body = req.rawBody ∧
    r.eventID = some result.eventID
  receipt : ∃ r ∈ db'.receipts, r.id = result.receiptID ∧ r.rawPayloadID = result.rawPayloadID ∧
    r.eventID = result.eventID ∧ r.rawHeaders = req.headers
  event : ∃ e ∈ db'.events, e.id = result.eventID

theorem evidence_of_capture {db db' : DB} {result : IngestResult}
    (h : capture crypto fuel clock env req source db = some (.ok (result, db'))) :
    Evidence req result db' := by
  obtain ⟨-, input, committed, hinput, hcommit, heventID, hreceiptID, hrawID, -⟩ := capture_eq_ok h
  have hrequest : input.body = req.rawBody ∧ input.rawHeaders = req.headers := by
    obtain ⟨_, _, -, -, rfl⟩ := captureInput_eq_some hinput
    exact ⟨rfl, rfl⟩
  obtain ⟨hwrites, hreceipt, hraw⟩ := captureInbound_committed hcommit
  refine ⟨⟨{ captureRawRow env input with eventID := some committed.eventID }, ?_, ?_, hrequest.1, ?_⟩,
    ⟨captureReceiptRow env input committed.eventID, ?_, ?_, ?_, ?_, hrequest.2⟩, ?_⟩
  · exact (Table.mem_of_rows_append hwrites.rawPayloads).mpr (.inr rfl)
  · exact (hrawID.trans hraw).symm
  · exact congrArg some heventID.symm
  · exact (Table.mem_of_rows_append hwrites.receipts).mpr (.inr rfl)
  · exact (hreceiptID.trans hreceipt).symm
  · exact (hrawID.trans hraw).symm
  · exact heventID.symm
  · cases hwrites.resolves with
    | new _ id _ events =>
      refine ⟨_, ?_, (heventID.trans id).symm⟩
      exact (Table.mem_of_rows_append events).mpr (.inr rfl)
    | duplicate existing _ id taken events =>
      refine ⟨existing, ?_, (heventID.trans id).symm⟩
      rw [events]
      exact (Table.byIndex_eq_some_iff.mp taken).1

theorem capture_commits_iff (hactive : source.row.state = .active)
    (hrow : SourceStored source.row) (hconnection : env.connectionFails = false)
    (hfresh : env.Fresh db) :
    (∃ result db', capture crypto fuel clock env req source db = some (.ok (result, db'))) ↔
      Storable crypto fuel clock source
        (activeDeclarativeAdapterVersion source.row.tenantID source.row.adapter db) req db := by
  constructor
  · rintro ⟨_, _, h⟩
    obtain ⟨-, _, _, hinput, hcommit, -⟩ := capture_eq_ok h
    rw [captureInput_eq_map] at hinput
    obtain ⟨x, hx, rfl⟩ := Option.map_eq_some_iff.mp hinput
    refine ⟨x, hx, ?_⟩
    exact (captureAccepts_inputOf hrow (textAccepts_verifyRequest_reason _ _ _ _ _)).mp
      (captureAccepts_of_captureInbound hcommit)
  · rintro ⟨x, hx, hplain⟩
    obtain ⟨input, hinput, hinputOf⟩ : ∃ input, captureInput crypto fuel clock source
        (activeDeclarativeAdapterVersion source.row.tenantID source.row.adapter db) req = some input ∧
        CaptureAccepts env input db := by
      rw [captureInput_eq_map, hx, Option.map_some]
      refine ⟨_, rfl, (captureAccepts_inputOf hrow ?_).mpr hplain⟩
      exact textAccepts_verifyRequest_reason _ _ _ _ _
    obtain ⟨⟨committed, db'⟩, hcommit⟩ := (captureInbound_commits_iff hconnection hfresh).mpr hinputOf
    refine ⟨⟨input.verificationOK || source.row.adapter == "cloudevents", committed.eventID,
      committed.receiptID, committed.rawPayloadID, input.verifyReason, committed.dedupeStatus⟩, db', ?_⟩
    rw [capture, if_neg (not_not.mpr hactive)]
    dsimp only
    rw [hinput]
    change some ((captureInbound env input db).map _) = _
    rw [hcommit]
    rfl

/-- `Ingest` commits a request with its evidence exactly when the request can be stored. -/
theorem ingest_commits_iff {env : Env} {db : DB} {tenantID sourceID : String}
    (hsource : findSource env.now tenantID sourceID db = .ok source)
    (hactive : source.row.state = .active) (hrow : SourceStored source.row)
    (hconnection : env.connectionFails = false) (hfresh : env.Fresh db) :
    (∃ fuel result db', ingest crypto fuel clock env req tenantID sourceID db = some (.ok (result, db')) ∧
        Evidence req result db') ↔
      ∃ fuel, Storable crypto fuel clock source
        (activeDeclarativeAdapterVersion source.row.tenantID source.row.adapter db) req db := by
  have hingest (fuel : Nat) : ingest crypto fuel clock env req tenantID sourceID db =
      capture crypto fuel clock env req source db := by
    rw [ingest, hsource]
  constructor
  · rintro ⟨fuel, result, db', h, -⟩
    rw [hingest] at h
    exact ⟨fuel, (capture_commits_iff hactive hrow hconnection hfresh).mp ⟨result, db', h⟩⟩
  · rintro ⟨fuel, h⟩
    obtain ⟨result, db', h⟩ := (capture_commits_iff hactive hrow hconnection hfresh).mpr h
    exact ⟨fuel, result, db', (hingest fuel).trans h, evidence_of_capture h⟩

/-! ### A body with the escape of the zero character -/

/-- The values of a request that did not verify. -/
theorem requestExtracted_of_unverified (hresolved : resolveAdapter source.row version = resolved)
    (hverify : (verifyRequest crypto clock source resolved.adapter req).verified = false) :
    requestExtracted crypto fuel clock source version req = some none := by
  unfold requestExtracted
  dsimp only
  rw [hresolved, hverify, if_neg Bool.false_ne_true]

/-- An unsigned request with a body. -/
def unsignedRequest (body : String) : IngestRequest where
  rawBody := bytesOf body
  headers := []
  contentType := "application/json"
  remoteIP := "192.0.2.1"

/-- An object whose identifier is the escape of the zero character. -/
def nulEscapeBody : String := "\x7b\"id\":\"\\u0000\"\x7d"

/-- The error of a capture that failed. -/
def failure (outcome : Option (Except StoreError (IngestResult × DB))) : Option StoreError :=
  match outcome with
  | some (.error e) => some e
  | _ => none

theorem eq_error_of_failure (h : failure outcome = some e) : outcome = some (.error e) := by
  unfold failure at h
  split at h
  case h_1 => rw [Option.some.inj h]
  case h_2 => cases h

theorem findSource_acme : findSource acmeEnv.now "t" "src_1" (acmeDB "acme") = .ok (acmeSource "acme") :=
  (findSource_acmeDB "acme" (by decide)).1

theorem acmeSource_stored : (acmeSource "acme").row.state = .active ∧ SourceStored (acmeSource "acme").row := by
  unfold SourceStored
  decide +kernel

theorem fresh_acmeDB : acmeEnv.Fresh (acmeDB "acme") := by
  refine ⟨?_, ?_, ?_, ?_, ?_, ?_⟩ <;> exact fun _ h ↦ absurd h (Table.not_mem_of_rows_eq_nil (by decide +kernel))

theorem resolveAdapter_acme : resolveAdapter (acmeSource "acme").row
    (activeDeclarativeAdapterVersion (acmeSource "acme").row.tenantID (acmeSource "acme").row.adapter
      (acmeDB "acme")) = ⟨.declarative acmeDefinition, acmeVersion.definition⟩ := by
  obtain ⟨-, hadapter, hversion⟩ := findSource_acmeDB "acme" (by decide)
  obtain ⟨hdeclarative, hactive⟩ := activeDeclarativeAdapterVersion_eq_some hversion
  have hprovider : builtInAdapter (acmeSource "acme").row.provider = none := by decide +kernel
  rw [hversion]
  exact resolveAdapter_of_declarative hadapter hprovider hdeclarative hactive
    parseDeclarativeDefinition_acme

/-- The source is active, the connection holds and the identifiers are fresh, but a body with the
escape fails the capture, so nothing is kept of it. -/
theorem ingest_fails_on_nul_escape :
    findSource acmeEnv.now "t" "src_1" (acmeDB "acme") = .ok (acmeSource "acme") ∧
      (acmeSource "acme").row.state = .active ∧ SourceStored (acmeSource "acme").row ∧
      acmeEnv.connectionFails = false ∧ acmeEnv.Fresh (acmeDB "acme") ∧
      ∀ fuel, ingest Crypto.standard fuel ⟨0, 0⟩ acmeEnv (unsignedRequest nulEscapeBody)
        "t" "src_1" (acmeDB "acme") = some (.error .failed) := by
  have hverify : (verifyRequest Crypto.standard ⟨0, 0⟩ (acmeSource "acme")
      (.declarative acmeDefinition) (unsignedRequest nulEscapeBody)).verified = false := by
    decide +kernel
  have hrun : failure (ingest Crypto.standard 0 ⟨0, 0⟩ acmeEnv (unsignedRequest nulEscapeBody)
      "t" "src_1" (acmeDB "acme")) = some .failed := by
    decide +kernel
  refine ⟨findSource_acme, acmeSource_stored.1, acmeSource_stored.2, rfl, fresh_acmeDB, fun fuel ↦ ?_⟩
  rw [← eq_error_of_failure hrun]
  -- what did not verify is captured alike with any fuel
  unfold ingest capture
  rw [findSource_acme]
  dsimp only
  rw [captureInput_eq_map, captureInput_eq_map, requestExtracted_of_unverified resolveAdapter_acme hverify,
    requestExtracted_of_unverified resolveAdapter_acme hverify]

/-- The same request with a plain identifier is stored. -/
theorem ingest_commits_plain_body :
    ∃ fuel result db', ingest checksum fuel ⟨0, 0⟩ acmeEnv (unsignedRequest "\x7b\"id\":\"e1\"\x7d")
        "t" "src_1" (acmeDB "acme") = some (.ok (result, db')) ∧
      Evidence (unsignedRequest "\x7b\"id\":\"e1\"\x7d") result db' := by
  apply (ingest_commits_iff findSource_acme acmeSource_stored.1 acmeSource_stored.2 rfl fresh_acmeDB).mpr
  have hverify : (verifyRequest checksum ⟨0, 0⟩ (acmeSource "acme") (.declarative acmeDefinition)
      (unsignedRequest "\x7b\"id\":\"e1\"\x7d")).verified = false := by
    decide +kernel
  refine ⟨0, none, requestExtracted_of_unverified resolveAdapter_acme hverify, ?_⟩
  rw [resolveAdapter_acme]
  exact ⟨by decide, by decide, nofun, by decide +kernel, by decide +kernel, nofun⟩

end

end Webhookery.App
