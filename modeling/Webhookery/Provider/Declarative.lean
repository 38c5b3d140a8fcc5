import Webhookery.Provider.Adapters

/-!
# Declarative adapters

`internal/provider/declarative.go`: an adapter described by a JSON definition. The definition is
decoded as `encoding/json` decodes into a struct, validated, and then drives verification and the
extraction of values from a request.
-/

namespace Webhookery.Provider

open Go Verifier

/-! ## Definitions -/

structure DeclarativeVerification where
  type : String := ""
  signatureHeader : String := ""
  timestampHeader : String := ""
  signedPayload : String := ""
  encoding : String := ""
  replayWindowSeconds : Int := 0
  signaturePrefix : String := ""
  deriving DecidableEq

structure DeclarativeNormalization where
  source : String := ""
  subject : String := ""
  data : String := ""
  deriving DecidableEq

structure DeclarativeDefinition where
  name : String := ""
  version : String := ""
  verification : DeclarativeVerification := {}
  extractors : List (String × String) := []
  normalization : DeclarativeNormalization := {}
  deriving DecidableEq

/-- A string struct field: null leaves it, another type is an error. -/
def decodeString (old : String) : Json → Option String
  | .str s => some s
  | .null => some old
  | _ => none

/-- An `int` struct field: only an integer literal in range is accepted. -/
def decodeInt (old : Int) : Json → Option Int
  | .num literal =>
    let value : Int := if literal.neg then -(literal.digits : Int) else literal.digits
    if literal.integral ∧ minInt64 ≤ value ∧ value ≤ maxInt64 then some value else none
  | .null => some old
  | _ => none

/-- A struct field filled from an object, member by member; null leaves it as it is. -/
def decodeStruct {α : Type} (member : α → String × Json → Option α) (old : α) : Json → Option α
  | .obj members => members.foldlM member old
  | .null => some old
  | _ => none

def decodeVerificationMember (v : DeclarativeVerification) (m : String × Json) : Option DeclarativeVerification :=
  let (key, j) := m
  if equalFold key "type" then (decodeString v.type j).map fun s ↦ { v with type := s }
  else if equalFold key "signature_header" then
    (decodeString v.signatureHeader j).map fun s ↦ { v with signatureHeader := s }
  else if equalFold key "timestamp_header" then
    (decodeString v.timestampHeader j).map fun s ↦ { v with timestampHeader := s }
  else if equalFold key "signed_payload" then
    (decodeString v.signedPayload j).map fun s ↦ { v with signedPayload := s }
  else if equalFold key "encoding" then (decodeString v.encoding j).map fun s ↦ { v with encoding := s }
  else if equalFold key "replay_window_seconds" then
    (decodeInt v.replayWindowSeconds j).map fun n ↦ { v with replayWindowSeconds := n }
  else if equalFold key "signature_prefix" then
    (decodeString v.signaturePrefix j).map fun s ↦ { v with signaturePrefix := s }
  else some v

def decodeNormalizationMember (n : DeclarativeNormalization) (m : String × Json) : Option DeclarativeNormalization :=
  let (key, j) := m
  if equalFold key "source" then (decodeString n.source j).map fun s ↦ { n with source := s }
  else if equalFold key "subject" then (decodeString n.subject j).map fun s ↦ { n with subject := s }
  else if equalFold key "data" then (decodeString n.data j).map fun s ↦ { n with data := s }
  else some n

/-- An entry of a `map[string]string`: null is the empty string. -/
def decodeExtractor (m : List (String × String)) (entry : String × Json) : Option (List (String × String)) :=
  (decodeString "" entry.2).map fun s ↦ (entry.1, s) :: m

/-- `deduplication` and `metadata` are not read, but have to be objects. -/
def decodeDefinitionMember (d : DeclarativeDefinition) (m : String × Json) : Option DeclarativeDefinition :=
  let (key, j) := m
  if equalFold key "name" then (decodeString d.name j).map fun s ↦ { d with name := s }
  else if equalFold key "version" then (decodeString d.version j).map fun s ↦ { d with version := s }
  else if equalFold key "verification" then
    (decodeStruct decodeVerificationMember d.verification j).map fun v ↦ { d with verification := v }
  else if equalFold key "extractors" then
    (decodeStruct decodeExtractor d.extractors j).map fun e ↦ { d with extractors := e }
  else if equalFold key "normalization" then
    (decodeStruct decodeNormalizationMember d.normalization j).map fun n ↦ { d with normalization := n }
  else if equalFold key "deduplication" then
    match j with
    | .obj members => if (Value.ofJsonMembers members []).2 then some d else none
    | .null => some d
    | _ => none
  else if equalFold key "metadata" then
    match j with
    | .obj _ | .null => some d
    | _ => none
  else some d

def rawBodyTemplate : String := "\x7b\x7braw_body\x7d\x7d"

def timestampTemplate : String := "\x7b\x7btimestamp\x7d\x7d"

/-- The signed payload of a definition, by default the body. -/
def DeclarativeVerification.payload (v : DeclarativeVerification) : String :=
  if trimSpace v.signedPayload = "" then rawBodyTemplate else trimSpace v.signedPayload

def signedPayloadTemplates : List String :=
  [rawBodyTemplate, timestampTemplate ++ "." ++ rawBodyTemplate,
    timestampTemplate ++ ":" ++ rawBodyTemplate, "v0:" ++ timestampTemplate ++ ":" ++ rawBodyTemplate]

/-- The error of an invalid definition, none when it is valid. -/
def validateDeclarativeDefinition (d : DeclarativeDefinition) : Option String :=
  let v := d.verification
  if trimSpace d.name = "" then some "name is required"
  else if toLower (trimSpace v.type) ≠ "hmac_sha256" then
    some "only hmac_sha256 declarative verification is supported"
  else if trimSpace v.signatureHeader = "" then some "signature_header is required"
  else if toLower (trimSpace v.encoding) ∉ ["", encodingHex, encodingBase64] then
    some "unsupported signature encoding"
  else if v.payload ∉ signedPayloadTemplates then some "unsupported signed_payload template"
  else if contains v.payload timestampTemplate ∧ trimSpace v.timestampHeader = "" then
    some "timestamp_header is required by signed_payload"
  else if v.replayWindowSeconds < 0 ∨ v.replayWindowSeconds > 86400 then
    some "replay_window_seconds must be between 0 and 86400"
  else none

/-- `ParseDeclarativeDefinition`: none for a missing, malformed or invalid definition. -/
def parseDeclarativeDefinition (raw : Bytes) : Option DeclarativeDefinition :=
  if raw = [] then none
  else
    match (Json.parse (decodeFrom 0 raw)).bind (decodeStruct decodeDefinitionMember {}) with
    | some d => if validateDeclarativeDefinition d = none then some d else none
    | none => none

def DeclarativeDefinition.adapterName (d : DeclarativeDefinition) : String := toLower d.name

/-- `extractors[key]`. -/
def DeclarativeDefinition.extractor (d : DeclarativeDefinition) (key : String) : String :=
  (d.extractors.lookup key).getD ""

/-! ## Verification -/

/-- The adapter's own decimal parser: digits only, wrapping around as `int64` arithmetic does. -/
def parseInt64 (raw : String) : Option Int :=
  if raw = "" ∨ !raw.toList.all isDigit then none
  else some (raw.toList.foldl (fun out c ↦ wrapInt64 (out * 10 + (c.toNat - 48 : Nat))) 0)

def parseDeclarativeTimestamp (raw : String) : Option Time :=
  let raw := trimSpace raw
  match parseInt64 raw with
  | some unix => some (Time.unix unix)
  | none => parseRFC3339 raw

/-- The signature text of a header, without its prefix; none when the required one is missing. -/
def DeclarativeVerification.signature (v : DeclarativeVerification) (header : String) : Option String :=
  let signature := trimSpace header
  let start := trimSpace v.signaturePrefix
  if start ≠ "" then cutPrefix signature start else some (trimPrefix signature "sha256=")

/-- The payload with the timestamp text and the body in place of their placeholders. -/
def renderPayload (template timestamp : String) (rawBody : Bytes) : Bytes :=
  replaceFrom (bytesOf rawBodyTemplate) rawBody 0
    (bytesOf (replaceAll template timestampTemplate timestamp))

/-- The comparison of a signature, by the encoding of the definition. -/
def DeclarativeVerification.check (crypto : Crypto) (v : DeclarativeVerification)
    (secret payload : Bytes) (signature : String) : Option Bool :=
  let encoding := toLower (trimSpace v.encoding)
  if encoding = "" ∨ encoding = encodingHex then
    some (verifyHMACSHA256Hex crypto secret payload signature)
  else if encoding = encodingBase64 then
    some (verifyHMACSHA256Base64 crypto secret payload signature)
  else none

/-- `DeclarativeAdapter.Verify`. -/
def declarativeVerify (crypto : Crypto) (d : DeclarativeDefinition) (input : VerifyInput) : VerifyResult :=
  let name := d.adapterName
  let v := d.verification
  let header := firstHeader input.headers v.signatureHeader
  let finish := fun (payload : Bytes) (ts : Time) (signature : String) ↦
    match v.check crypto input.secret payload signature with
    | none => result name false reasonUnsupportedAlg
    | some false =>
      ({ provider := name, reason := reasonInvalidSignature, timestamp := ts } : VerifyResult)
    | some true => { provider := name, verified := true, reason := reasonOK, timestamp := ts }
  if header = "" then result name false reasonMissingSignature
  else
    match v.signature header with
    | none => result name false reasonMalformedHeader
    | some signature =>
      if contains v.payload timestampTemplate then
        let tsHeader := firstHeader input.headers v.timestampHeader
        if tsHeader = "" then result name false reasonMissingSignature
        else
          match parseDeclarativeTimestamp tsHeader with
          | none => result name false reasonMalformedHeader
          | some ts =>
            let window := v.replayWindowSeconds * second
            if window > 0 ∧ Time.age input.clock ts > window then
              { provider := name, reason := reasonExpiredTimestamp, timestamp := ts }
            else finish (renderPayload v.payload (trimSpace tsHeader) input.rawBody) ts signature
      else finish input.rawBody Time.zero signature

end Webhookery.Provider
