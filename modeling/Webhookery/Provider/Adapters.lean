import Webhookery.Provider.Verifier

/-!
# Built-in provider adapters

The adapters of `internal/provider/provider.go` and their registry. Each adapter reads a signature
from the headers of a request and decides whether it is valid for one secret.
-/

namespace Webhookery.Provider

open Go Verifier

/-! ## Headers -/

/-- A header as received. -/
structure HeaderPair where
  (name value : String)
  deriving DecidableEq, Repr

/-- Headers by name, each with its values in order. -/
abbrev Headers := List (String × List String)

/-- `headers[name] = append(headers[name], value)`. -/
def addHeader (name value : String) : Headers → Headers
  | [] => [(name, [value])]
  | (k, values) :: rest =>
    if k = name then (k, values ++ [value]) :: rest else (k, values) :: addHeader name value rest

/-- `domain.CanonicalHeaders`. -/
def canonicalHeaders (raw : List HeaderPair) : Headers :=
  raw.foldl (fun headers h ↦ addHeader (toLower h.name) h.value headers) []

/-- The first value of a header, empty when there is none. -/
def firstHeader (headers : Headers) (name : String) : String :=
  match headers.find? fun (key, values) ↦ toLower key == toLower name && !values.isEmpty with
  | some (_, value :: _) => value
  | _ => ""

/-! ## Verification -/

structure VerifyInput where
  rawBody : Bytes
  headers : Headers
  secret : Bytes
  now : Time
  /-- What `time.Now` would return; read only when `now` is the zero time. -/
  wallClock : Time

structure VerifyResult where
  verified : Bool := false
  (reason provider : String)
  timestamp : Time := Time.zero

def result (provider : String) (verified : Bool) (reason : String) : VerifyResult :=
  { provider := provider, verified := verified, reason := reason }

/-- The clock an adapter compares with: the given time, or the wall clock when that is zero. -/
def VerifyInput.clock (input : VerifyInput) : Time :=
  if input.now = Time.zero then input.wallClock else input.now

def verificationReasonUnsignedCloudEvents : String := "unsigned_cloudevents"

def bearerToken (header : String) : String :=
  match cut (trimSpace header) ' ' with
  | some (pre, token) => if equalFold pre "Bearer" then trimSpace token else ""
  | none => ""

def decodeBase64URL (value : String) : Option Bytes :=
  match rawURLEncoding.decode value with
  | some raw => some raw
  | none => urlEncoding.decode value

/-- A string field of a struct, filled from the object members whose key folds to its name: null
leaves it as it is and any other type is an error. -/
def stringField (members : List (String × Json)) (name : String) : Option String :=
  members.foldlM (fun acc (k, j) ↦
    if equalFold k name then
      match j with
      | .str s => some s
      | .null => some acc
      | _ => none
    else some acc) ""

/-- `json.Unmarshal` into a struct of string fields. -/
def unmarshalStrings (raw : Bytes) (names : List String) : Option (List String) :=
  match Json.parse (decodeFrom 0 raw) with
  | some .null => some (names.map fun _ ↦ "")
  | some (.obj members) => names.mapM (stringField members)
  | _ => none

def jwtNumericClaim (claims : Map) (key : String) : Int :=
  match Value.lookup claims key with
  | .num f => f.toInt64
  | _ => 0

def sha256Hex (crypto : Crypto) (body : Bytes) : String := hexEncode (crypto.sha256 body)

/-- The three parts of a token, none of them empty. -/
def tokenParts (token : String) : Option (String × String × String) :=
  match split token '.' with
  | [p0, p1, p2] => if p0 = "" ∨ p1 = "" ∨ p2 = "" then none else some (p0, p1, p2)
  | _ => none

section

variable (crypto : Crypto)

def stripeVerify (input : VerifyInput) : VerifyResult :=
  let header := firstHeader input.headers "stripe-signature"
  if header = "" then result "stripe" false reasonMissingSignature
  else
    let res := verifyTimestampedHMAC crypto
      { secret := input.secret, rawBody := input.rawBody, header := header, now := input.now,
        tolerance := 5 * minute, expectedVersion := "v1", encoding := encodingHex }
    { verified := res.valid, reason := res.reason, provider := "stripe", timestamp := res.timestamp }

def gitHubVerify (input : VerifyInput) : VerifyResult :=
  let header := firstHeader input.headers "x-hub-signature-256"
  if header = "" then result "github" false reasonMissingSignature
  else
    match cutPrefix header "sha256=" with
    | none => result "github" false reasonMalformedHeader
    | some signature =>
      if verifyHMACSHA256Hex crypto input.secret input.rawBody signature then
        result "github" true reasonOK
      else result "github" false reasonInvalidSignature

def shopifyVerify (input : VerifyInput) : VerifyResult :=
  let header := firstHeader input.headers "x-shopify-hmac-sha256"
  if header = "" then result "shopify" false reasonMissingSignature
  else if verifyHMACSHA256Base64 crypto input.secret input.rawBody header then
    result "shopify" true reasonOK
  else result "shopify" false reasonInvalidSignature

/-- The payload that Slack signs. -/
def slackPayload (unix : Int) (rawBody : Bytes) : Bytes :=
  bytesOf ("v0:" ++ formatInt unix ++ ":") ++ rawBody

def slackVerify (input : VerifyInput) : VerifyResult :=
  let tsHeader := firstHeader input.headers "x-slack-request-timestamp"
  let sigHeader := firstHeader input.headers "x-slack-signature"
  if tsHeader = "" ∨ sigHeader = "" then result "slack" false reasonMissingSignature
  else
    match parseInt tsHeader with
    | none => result "slack" false reasonMalformedHeader
    | some unix =>
      let ts := Time.unix unix
      if Time.age input.now ts > 5 * minute then
        { provider := "slack", reason := reasonExpiredTimestamp, timestamp := ts }
      else
        match cutPrefix sigHeader "v0=" with
        | none => result "slack" false reasonMalformedHeader
        | some signature =>
          if verifyHMACSHA256Hex crypto input.secret (slackPayload unix input.rawBody) signature then
            { provider := "slack", verified := true, reason := reasonOK, timestamp := ts }
          else { provider := "slack", reason := reasonInvalidSignature, timestamp := ts }

def genericHMACVerify (input : VerifyInput) : VerifyResult :=
  let header := firstHeader input.headers "webhook-signature"
  if header = "" then result "generic-hmac" false reasonMissingSignature
  else if verifyHMACSHA256Hex crypto input.secret input.rawBody (trimPrefix header "sha256=") then
    result "generic-hmac" true reasonOK
  else result "generic-hmac" false reasonInvalidSignature

/-- The checks on the claims of a token whose signature is valid. -/
def checkClaims (now : Time) (rawBody : Bytes) (claims : Map) : VerifyResult :=
  let exp := jwtNumericClaim claims "exp"
  let nbf := jwtNumericClaim claims "nbf"
  let iat := jwtNumericClaim claims "iat"
  let expired := fun claim : Int ↦
    ({ provider := "generic-jwt", reason := reasonExpiredTimestamp, timestamp := Time.unix claim } :
      VerifyResult)
  if exp = 0 then result "generic-jwt" false reasonMalformedHeader
  else if Time.toUnix now ≥ exp then expired exp
  else if nbf ≠ 0 ∧ Time.toUnix now < nbf then expired nbf
  else if iat ≠ 0 ∧ Time.toUnix (now + 5 * minute) < iat then expired iat
  else if equalFold (trimSpace (Value.lookup claims "body_sha256").asString) (sha256Hex crypto rawBody) then
    result "generic-jwt" true reasonOK
  else result "generic-jwt" false reasonInvalidSignature

/-- The token of a request: the bearer token, else the webhook header. -/
def requestToken (headers : Headers) : String :=
  let token := bearerToken (firstHeader headers "authorization")
  if token = "" then trimSpace (firstHeader headers "webhook-jwt") else token

def genericJWTVerify (input : VerifyInput) : VerifyResult :=
  let token := requestToken input.headers
  if token = "" then result "generic-jwt" false reasonMissingSignature
  else
    match tokenParts token with
    | none => result "generic-jwt" false reasonMalformedHeader
    | some (p0, p1, p2) =>
      match (decodeBase64URL p0).bind fun raw ↦ unmarshalStrings raw ["alg", "typ", "kid"] with
      | some (alg :: _) =>
        if alg ≠ "HS256" then result "generic-jwt" false reasonUnsupportedAlg
        else
          match (decodeBase64URL p1).map Value.unmarshalMap with
          | some (claims, true) =>
            match decodeBase64URL p2 with
            | none => result "generic-jwt" false reasonMalformedHeader
            | some signature =>
              if signature = crypto.hmacSHA256 input.secret (bytesOf (p0 ++ "." ++ p1)) then
                checkClaims crypto input.clock input.rawBody claims
              else result "generic-jwt" false reasonInvalidSignature
          | _ => result "generic-jwt" false reasonMalformedHeader
      | _ => result "generic-jwt" false reasonMalformedHeader

end

def cloudEventsVerify (input : VerifyInput) : VerifyResult :=
  if firstHeader input.headers "ce-id" ≠ "" ∧ firstHeader input.headers "ce-type" ≠ "" then
    result "cloudevents" false verificationReasonUnsignedCloudEvents
  else if hasPrefix (toLower (firstHeader input.headers "content-type")) "application/cloudevents+json" then
    match unmarshalStrings input.rawBody ["specversion", "id", "type", "source"] with
    | none => result "cloudevents" false reasonMalformedHeader
    | some fields =>
      if fields.all (· ≠ "") then result "cloudevents" false verificationReasonUnsignedCloudEvents
      else result "cloudevents" false "missing_cloudevents_headers"
  else result "cloudevents" false "missing_cloudevents_headers"

def unsafeVerify (_ : VerifyInput) : VerifyResult :=
  result "generic-unsafe" false "unsafe_adapter_disabled"

def internalTrustedVerify (_ : VerifyInput) : VerifyResult :=
  result "internal" true reasonOK

/-! ## Registry -/

inductive BuiltIn where
  | stripe
  | gitHub
  | shopify
  | slack
  | genericHMAC
  | genericJWT
  | cloudEvents
  | internalTrusted
  | genericUnsafe
  deriving DecidableEq, Repr

/-- `BuiltInRegistry().Adapter(name)`. -/
def builtInAdapter (name : String) : Option BuiltIn :=
  match toLower name with
  | "stripe" => some .stripe
  | "github" => some .gitHub
  | "shopify" => some .shopify
  | "slack" => some .slack
  | "generic-hmac" => some .genericHMAC
  | "generic-jwt" => some .genericJWT
  | "cloudevents" => some .cloudEvents
  | "internal" => some .internalTrusted
  | "generic-unsafe" => some .genericUnsafe
  | _ => none

def BuiltIn.verify (crypto : Crypto) : BuiltIn → VerifyInput → VerifyResult
  | .stripe => stripeVerify crypto
  | .gitHub => gitHubVerify crypto
  | .shopify => shopifyVerify crypto
  | .slack => slackVerify crypto
  | .genericHMAC => genericHMACVerify crypto
  | .genericJWT => genericJWTVerify crypto
  | .cloudEvents => cloudEventsVerify
  | .internalTrusted => internalTrustedVerify
  | .genericUnsafe => unsafeVerify

end Webhookery.Provider
