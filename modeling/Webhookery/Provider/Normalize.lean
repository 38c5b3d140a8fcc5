import Webhookery.Provider.Declarative

/-!
# Normalization

`internal/provider/normalize.go` and the normalization half of `declarative.go`: the values taken
from a request and the normalized envelope built from them. Rendering a source template repeats
until no placeholder is left, which a request can prevent, so it takes fuel and has no result when
the fuel runs out.
-/

namespace Webhookery.Provider

open Go

def verificationReasonProviderAPIReconcile : String := "provider_api_reconciliation"

/-- `domain.HashSHA256`. -/
def hashSHA256 (crypto : Crypto) (body : Bytes) : String :=
  "sha256:" ++ hexEncode (crypto.sha256 body)

/-! ## Values of a request -/

/-- `parseJSONMap`: decoding errors are ignored. -/
def parseJSONMap (raw : Bytes) : Map := (Value.unmarshalMap raw).1

def stringValue (values : Map) (key : String) : String := (Value.lookup values key).asString

/-- The value at a path of keys; nil when an object is missing on the way. -/
def walk (current : Value) : List String → Value
  | [] => current
  | key :: rest =>
    match current.asMap with
    | some m => walk (Value.lookup m key) rest
    | none => .null

def nestedString (values : Map) (path : List String) : String :=
  (walk (Value.ofMap values) path).asString

def declarativeAny (path : String) (raw : Map) (headers : Headers) : Value :=
  let path := trimSpace path
  if path = "" then .null
  else if path = "$" then Value.ofMap raw
  else if hasPrefix path "$." then walk (Value.ofMap raw) (split (trimPrefix path "$.") '.')
  else if hasPrefix (toLower path) "header:" then
    .str (firstHeader headers (trimSpace (String.ofList (path.toList.drop 7))))
  else .str path

def declarativeValue (path : String) (raw : Map) (headers : Headers) : String :=
  match declarativeAny path raw headers with
  | .str s => s
  | .num f => String.ofList f.integerChars
  | .null => ""
  | other => String.ofList other.sprintChars

/-- The first placeholder of a template that names a path of the body, braces included. -/
def firstToken (out : String) : Option String := do
  let (_, tail) ← breakAt "\x7b\x7b$.".toList out.toList
  let (token, _) ← breakAt "\x7d\x7d".toList tail
  return String.ofList (token ++ "\x7d\x7d".toList)

/-- Replaces placeholders while there is one; none when `fuel` rounds were not enough. -/
def renderTokens (raw : Map) (headers : Headers) : Nat → String → Option String
  | fuel, out =>
    match firstToken out with
    | none => some out
    | some token =>
      match fuel with
      | 0 => none
      | fuel + 1 =>
        let path := String.ofList ((token.toList.drop 2).take (token.length - 4))
        renderTokens raw headers fuel (replaceAll out token (declarativeValue path raw headers))

def renderDeclarativeTemplate (fuel : Nat) (template : String) (raw : Map) (headers : Headers)
    (values : List (String × String)) : Option String :=
  let out := trimSpace template
  if out = "" then some ""
  else
    renderTokens raw headers fuel <| values.foldl
      (fun out (key, value) ↦ replaceAll out ("\x7b\x7b" ++ key ++ "\x7d\x7d") value) out

/-- `DeclarativeMetadata`: the provider event id and type, empty for an invalid definition. -/
def declarativeMetadata (rawDefinition rawBody : Bytes) (headers : Headers) : String × String :=
  match parseDeclarativeDefinition rawDefinition with
  | none => ("", "")
  | some d =>
    let raw := parseJSONMap rawBody
    (declarativeValue (d.extractor "provider_event_id") raw headers,
      declarativeValue (d.extractor "type") raw headers)

/-! ## Envelopes -/

structure NormalizeInput where
  (adapter provider tenantID sourceID : String)
  rawBody : Bytes
  headers : Headers
  verified : Bool
  (verifyReason rawHash : String)
  adapterDefinition : Bytes

structure NormalizedEnvelope where
  (source type subject provider providerEventID : String)
  (envelope data metadata : Bytes)
  (envelopeHash dataHash metadataHash : String)

def providerMetadata (adapter : String) (raw : Map) (headers : Headers) : String × String :=
  match adapter with
  | "github" => (firstHeader headers "x-github-delivery", firstHeader headers "x-github-event")
  | "shopify" => (firstHeader headers "x-shopify-webhook-id", firstHeader headers "x-shopify-topic")
  | "slack" =>
    let eventType := match (Value.lookup raw "event").asMap with
      | some event => stringValue event "type"
      | none => ""
    (stringValue raw "event_id", if eventType = "" then stringValue raw "type" else eventType)
  | "cloudevents" =>
    let id := firstHeader headers "ce-id"
    let eventType := firstHeader headers "ce-type"
    (if id = "" then stringValue raw "id" else id,
      if eventType = "" then stringValue raw "type" else eventType)
  | _ => (stringValue raw "id", firstNonBlank [stringValue raw "type", nestedString raw ["event", "type"]])

def normalizedSource (adapter sourceID : String) (raw : Map) (headers : Headers) : String :=
  let fallback := adapter ++ ":" ++ sourceID
  let named := fun (scheme value : String) ↦ if value = "" then fallback else scheme ++ value
  match adapter with
  | "stripe" => named "stripe:" (stringValue raw "account")
  | "github" => named "github:" (nestedString raw ["repository", "full_name"])
  | "shopify" => named "shopify:" (firstHeader headers "x-shopify-shop-domain")
  | "slack" => named "slack:" (stringValue raw "team_id")
  | "cloudevents" =>
    if firstHeader headers "ce-source" ≠ "" then firstHeader headers "ce-source"
    else named "" (stringValue raw "source")
  | _ => fallback

def normalizedSubject (adapter : String) (raw : Map) (headers : Headers) : String :=
  match adapter with
  | "stripe" => nestedString raw ["data", "object", "id"]
  | "github" => nestedString raw ["repository", "full_name"]
  | "shopify" => firstHeader headers "x-shopify-shop-domain"
  | "slack" => firstNonBlank [nestedString raw ["event", "channel"], nestedString raw ["event", "user"]]
  | "cloudevents" =>
    if firstHeader headers "ce-subject" ≠ "" then firstHeader headers "ce-subject"
    else stringValue raw "subject"
  | _ => ""

/-- The data of an envelope: the CloudEvents data, the decoded object, or the body as text. -/
def normalizedData (adapter : String) (raw : Map) (rawBody : Bytes) : Value :=
  let body := if (raw.getD []).isEmpty then .raw rawBody else Value.ofMap raw
  if adapter = "cloudevents" then (Value.find? raw "data").getD body else body

def normalizedMetadata (input : NormalizeInput) (raw : Map) : Members :=
  let header := fun name ↦ Value.str (firstHeader input.headers name)
  let extra : Members := match toLower input.adapter with
    | "stripe" =>
      [("api_version", .str (stringValue raw "api_version")), ("livemode", Value.lookup raw "livemode")]
    | "github" => [("delivery", header "x-github-delivery"), ("event", header "x-github-event")]
    | "shopify" =>
      [("topic", header "x-shopify-topic"), ("shop_domain", header "x-shopify-shop-domain"),
        ("webhook_id", header "x-shopify-webhook-id")]
    | "slack" =>
      [("team_id", .str (stringValue raw "team_id")), ("api_app_id", .str (stringValue raw "api_app_id")),
        ("event_time", Value.lookup raw "event_time")]
    | "cloudevents" =>
      [("specversion", .str (firstNonBlank [firstHeader input.headers "ce-specversion",
          stringValue raw "specversion"])),
        ("datacontenttype", .str (firstNonBlank [firstHeader input.headers "ce-datacontenttype",
          stringValue raw "datacontenttype"]))]
    | _ => []
  Value.ofMembers ([("adapter", .str input.adapter), ("provider", .str input.provider),
    ("raw_payload_hash", .str input.rawHash), ("verification_reason", .str input.verifyReason)] ++ extra)

/-- The values that an envelope takes from a request. -/
structure Extracted where
  (id type source subject : String)
  data : Value
  metadata : Members

/-- The entries of the envelope document around the values taken from a request. -/
def envelopeEntries (input : NormalizeInput) (x : Extracted) : Members :=
  [("specversion", .str "1.0"), ("id", .str x.id), ("type", .str x.type),
    ("source", .str x.source), ("subject", .str x.subject), ("tenant_id", .str input.tenantID),
    ("source_id", .str input.sourceID), ("provider", .str input.provider),
    ("provider_event_id", .str x.id), ("raw_payload_hash", .str input.rawHash),
    ("signature_verified", .bool input.verified), ("verification_reason", .str input.verifyReason),
    ("data", x.data), ("metadata", .obj x.metadata)]

def envelopeDocument (input : NormalizeInput) (x : Extracted) : Members :=
  Value.ofMembers (envelopeEntries input x)

/-- The normalized envelope with its three documents and their hashes. -/
def buildEnvelope (crypto : Crypto) (input : NormalizeInput) (x : Extracted) : NormalizedEnvelope :=
  let dataJSON := x.data.marshal
  let metadataJSON := (Value.obj x.metadata).marshal
  let envelopeJSON := (Value.obj (envelopeDocument input x)).marshal
  { source := x.source
    type := x.type
    subject := x.subject
    provider := input.provider
    providerEventID := x.id
    envelope := envelopeJSON
    data := dataJSON
    metadata := metadataJSON
    envelopeHash := hashSHA256 crypto envelopeJSON
    dataHash := hashSHA256 crypto dataJSON
    metadataHash := hashSHA256 crypto metadataJSON }

def orElseString (value default : String) : String := if value = "" then default else value

/-- What normalizing returned: an envelope, an error, or nothing because it did not end. -/
inductive NormalizeResult where
  | ok (env : NormalizedEnvelope)
  | error
  | diverged

/-- The values of a request under a definition; none when rendering did not end. -/
def extractDeclarative (fuel : Nat) (input : NormalizeInput) (d : DeclarativeDefinition) : Option Extracted :=
  let raw := parseJSONMap input.rawBody
  let value := fun path ↦ declarativeValue path raw input.headers
  let accountID := value (d.extractor "account_id")
  (renderDeclarativeTemplate fuel d.normalization.source raw input.headers
      [("account_id", accountID)]).map fun source ↦
    { id := orElseString (value (d.extractor "provider_event_id")) input.rawHash
      type := orElseString (value (d.extractor "type")) "unknown"
      source := orElseString source (input.adapter ++ ":" ++ input.sourceID)
      subject := value d.normalization.subject
      data := match declarativeAny d.normalization.data raw input.headers with
        | .null => normalizedData input.adapter raw input.rawBody
        | v => v
      metadata := Value.ofMembers (normalizedMetadata input raw ++
        [("declarative_adapter", .str d.name), ("declarative_version", .str d.version),
          ("account_id", .str accountID)]) }

/-- The adapter whose rules a request is normalized by. -/
def NormalizeInput.adapterName (input : NormalizeInput) : String :=
  orElseString (toLower (trimSpace input.adapter)) (toLower (trimSpace input.provider))

/-- The values of a request under the rules of its built-in adapter. -/
def extractBuiltIn (input : NormalizeInput) : Extracted :=
  let adapter := input.adapterName
  let raw := parseJSONMap input.rawBody
  let (id, eventType) := providerMetadata adapter raw input.headers
  { id := orElseString id input.rawHash
    type := orElseString eventType "unknown"
    source := normalizedSource adapter input.sourceID raw input.headers
    subject := normalizedSubject adapter raw input.headers
    data := normalizedData adapter raw input.rawBody
    metadata := normalizedMetadata input raw }

def normalizeDeclarative (crypto : Crypto) (fuel : Nat) (input : NormalizeInput)
    (d : DeclarativeDefinition) : NormalizeResult :=
  match extractDeclarative fuel input d with
  | none => .diverged
  | some x => .ok (buildEnvelope crypto input x)

def normalize (crypto : Crypto) (fuel : Nat) (input : NormalizeInput) : NormalizeResult :=
  if !input.verified ∧ input.verifyReason ≠ verificationReasonProviderAPIReconcile ∧
      input.adapterName ≠ "generic-unsafe" then .error
  else if input.adapterDefinition ≠ [] then
    match parseDeclarativeDefinition input.adapterDefinition with
    | none => .error
    | some d => normalizeDeclarative crypto fuel input d
  else .ok (buildEnvelope crypto input (extractBuiltIn input))

end Webhookery.Provider
