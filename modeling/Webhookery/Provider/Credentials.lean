import Webhookery.Provider.Declarative

/-!
# Signatures that requests carry

The message and the signature that an adapter reads from a request, apart from any secret. An
adapter that asks for a signature verifies a request only when the signature is the keyed hash of
the message under the secret.
-/

namespace Webhookery.Provider

open Go Verifier

/-- A signed message with the bytes of its signature. -/
structure Credential where
  (message signature : Bytes)
  deriving DecidableEq

/-- The credential of a message that was signed with a secret. -/
def Credential.sign (crypto : Crypto) (secret message : Bytes) : Credential :=
  ⟨message, crypto.hmacSHA256 secret message⟩

section

variable (headers : Headers) (rawBody : Bytes)

def stripeCredential : Option Credential := do
  let values := parseKVHeader (firstHeader headers "stripe-signature")
  let unix ← parseInt (kvValue values "t")
  let signature ← hexDecode (kvValue values "v1")
  return ⟨timestampedPayload unix rawBody, signature⟩

def gitHubCredential : Option Credential := do
  let text ← cutPrefix (firstHeader headers "x-hub-signature-256") "sha256="
  let signature ← hexDecode text
  return ⟨rawBody, signature⟩

def shopifyCredential : Option Credential := do
  let signature ← stdEncoding.decode (firstHeader headers "x-shopify-hmac-sha256")
  return ⟨rawBody, signature⟩

def slackCredential : Option Credential := do
  let unix ← parseInt (firstHeader headers "x-slack-request-timestamp")
  let text ← cutPrefix (firstHeader headers "x-slack-signature") "v0="
  let signature ← hexDecode text
  return ⟨slackPayload unix rawBody, signature⟩

def genericHMACCredential : Option Credential := do
  let signature ← hexDecode (trimPrefix (firstHeader headers "webhook-signature") "sha256=")
  return ⟨rawBody, signature⟩

/-- A token signs its first two parts. -/
def genericJWTCredential : Option Credential := do
  let (p0, p1, p2) ← tokenParts (requestToken headers)
  let signature ← decodeBase64URL p2
  return ⟨bytesOf (p0 ++ "." ++ p1), signature⟩

/-- Three adapters read no signature. -/
def BuiltIn.credential : BuiltIn → Option Credential
  | .stripe => stripeCredential headers rawBody
  | .gitHub => gitHubCredential headers rawBody
  | .shopify => shopifyCredential headers rawBody
  | .slack => slackCredential headers rawBody
  | .genericHMAC => genericHMACCredential headers rawBody
  | .genericJWT => genericJWTCredential headers
  | .cloudEvents | .internalTrusted | .genericUnsafe => none

end

/-- The signature bytes of a text, by the encoding of a definition. -/
def DeclarativeVerification.decode (v : DeclarativeVerification) (text : String) : Option Bytes :=
  if toLower (trimSpace v.encoding) = encodingBase64 then stdEncoding.decode text else hexDecode text

def declarativeCredential (d : DeclarativeDefinition) (headers : Headers) (rawBody : Bytes) :
    Option Credential := do
  let v := d.verification
  let text ← v.signature (firstHeader headers v.signatureHeader)
  let signature ← v.decode text
  let message :=
    if contains v.payload timestampTemplate then
      renderPayload v.payload (trimSpace (firstHeader headers v.timestampHeader)) rawBody
    else rawBody
  return ⟨message, signature⟩

/-! ## What a verified request carries -/

variable {crypto : Crypto} {input : VerifyInput}

/-- A timestamped header that is valid holds the signature of its payload, and its timestamp is not too old. -/
theorem verifyTimestampedHMAC_valid {input : VerifyTimestampedHMACInput}
    (h : (verifyTimestampedHMAC crypto input).valid = true) :
    ∃ unix, parseInt (kvValue (parseKVHeader input.header) "t") = some unix ∧
      (0 < input.tolerance → Time.age input.now (Time.unix unix) ≤ input.tolerance) ∧
      (input.encoding = encodingHex →
        hexDecode (kvValue (parseKVHeader input.header) input.expectedVersion) =
          some (crypto.hmacSHA256 input.secret (timestampedPayload unix input.rawBody))) := by
  revert h
  fun_cases verifyTimestampedHMAC crypto input
  case case7 unix hunix _ _ hage _ _ _ _ _ hverdict =>
    refine fun _ ↦ ⟨unix, hunix, fun hpos ↦ Int.not_lt.mp fun hold ↦ hage ⟨hpos, hold⟩, fun hencoding ↦ ?_⟩
    exact verifyHMACSHA256Hex_eq_true.mp (Option.some.inj ((if_pos (Or.inr hencoding)).symm.trans hverdict))
  all_goals rintro ⟨⟩

theorem stripeVerify_signed (h : (stripeVerify crypto input).verified = true) :
    ∃ message, stripeCredential input.headers input.rawBody =
      some (.sign crypto input.secret message) := by
  revert h
  fun_cases stripeVerify crypto input
  case case1 => rintro ⟨⟩
  case case2 =>
    intro h
    obtain ⟨unix, hunix, -, hsignature⟩ := verifyTimestampedHMAC_valid h
    refine ⟨timestampedPayload unix input.rawBody, ?_⟩
    unfold stripeCredential
    dsimp only at hunix hsignature ⊢
    rw [hunix, hsignature rfl]
    rfl

theorem gitHubVerify_signed (h : (gitHubVerify crypto input).verified = true) :
    ∃ message, gitHubCredential input.headers input.rawBody =
      some (.sign crypto input.secret message) := by
  revert h
  fun_cases gitHubVerify crypto input
  case case3 htext hverify =>
    refine fun _ ↦ ⟨input.rawBody, ?_⟩
    unfold gitHubCredential
    rw [htext, Option.bind_eq_bind, Option.bind_some, verifyHMACSHA256Hex_eq_true.mp hverify]
    rfl
  all_goals rintro ⟨⟩

theorem shopifyVerify_signed (h : (shopifyVerify crypto input).verified = true) :
    ∃ message, shopifyCredential input.headers input.rawBody =
      some (.sign crypto input.secret message) := by
  revert h
  fun_cases shopifyVerify crypto input
  case case2 hverify =>
    refine fun _ ↦ ⟨input.rawBody, ?_⟩
    unfold shopifyCredential
    rw [verifyHMACSHA256Base64_eq_true.mp hverify]
    rfl
  all_goals rintro ⟨⟩

/-- What Slack's adapter found out about a request that it accepts. -/
theorem slackVerify_accepted (h : (slackVerify crypto input).verified = true) :
    ∃ unix text, parseInt (firstHeader input.headers "x-slack-request-timestamp") = some unix ∧
      Time.age input.now (Time.unix unix) ≤ 5 * minute ∧
      cutPrefix (firstHeader input.headers "x-slack-signature") "v0=" = some text ∧
      hexDecode text = some (crypto.hmacSHA256 input.secret (slackPayload unix input.rawBody)) := by
  revert h
  fun_cases slackVerify crypto input
  case case5 unix hunix _ hage text htext hverify =>
    exact fun _ ↦ ⟨unix, text, hunix, Int.not_lt.mp hage, htext, verifyHMACSHA256Hex_eq_true.mp hverify⟩
  all_goals rintro ⟨⟩

theorem slackVerify_signed (h : (slackVerify crypto input).verified = true) :
    ∃ message, slackCredential input.headers input.rawBody =
      some (.sign crypto input.secret message) := by
  obtain ⟨unix, _, hunix, -, htext, hsignature⟩ := slackVerify_accepted h
  refine ⟨slackPayload unix input.rawBody, ?_⟩
  unfold slackCredential
  rw [hunix, htext, Option.bind_eq_bind, Option.bind_some, Option.bind_eq_bind, Option.bind_some, hsignature]
  rfl

theorem genericHMACVerify_signed (h : (genericHMACVerify crypto input).verified = true) :
    ∃ message, genericHMACCredential input.headers input.rawBody =
      some (.sign crypto input.secret message) := by
  revert h
  fun_cases genericHMACVerify crypto input
  case case2 hverify =>
    refine fun _ ↦ ⟨input.rawBody, ?_⟩
    unfold genericHMACCredential
    rw [verifyHMACSHA256Hex_eq_true.mp hverify]
    rfl
  all_goals rintro ⟨⟩

theorem genericJWTVerify_signed (h : (genericJWTVerify crypto input).verified = true) :
    ∃ message, genericJWTCredential input.headers = some (.sign crypto input.secret message) := by
  revert h
  fun_cases genericJWTVerify crypto input
  case case5 p0 p1 _ hparts _ _ _ _ _ _ hsignature =>
    refine fun _ ↦ ⟨bytesOf (p0 ++ "." ++ p1), ?_⟩
    unfold genericJWTCredential
    rw [hparts, Option.bind_eq_bind, Option.bind_some]
    dsimp only
    rw [hsignature]
    rfl
  all_goals rintro ⟨⟩

/-- A built-in adapter other than the internal one verifies only signed requests. -/
theorem BuiltIn.verify_signed {b : BuiltIn} (hne : b ≠ .internalTrusted)
    (h : (b.verify crypto input).verified = true) :
    ∃ message, b.credential input.headers input.rawBody = some (.sign crypto input.secret message) := by
  cases b with
  | stripe => exact stripeVerify_signed h
  | gitHub => exact gitHubVerify_signed h
  | shopify => exact shopifyVerify_signed h
  | slack => exact slackVerify_signed h
  | genericHMAC => exact genericHMACVerify_signed h
  | genericJWT => exact genericJWTVerify_signed h
  | cloudEvents =>
    change (cloudEventsVerify input).verified = true at h
    unfold cloudEventsVerify at h
    repeat' split at h
    all_goals cases h
  | internalTrusted => exact absurd rfl hne
  | genericUnsafe => cases h

/-- The comparison of a definition succeeds only on the keyed hash. -/
theorem DeclarativeVerification.decode_of_check {v : DeclarativeVerification} {secret payload : Bytes}
    {text : String} (h : v.check crypto secret payload text = some true) :
    v.decode text = some (crypto.hmacSHA256 secret payload) := by
  unfold DeclarativeVerification.check at h
  dsimp only at h
  unfold DeclarativeVerification.decode
  split at h
  case isTrue hhex =>
    have hne : toLower (trimSpace v.encoding) ≠ encodingBase64 := by
      rcases hhex with hempty | hhex
      · rw [hempty]
        decide
      · rw [hhex]
        decide
    rw [if_neg hne]
    exact verifyHMACSHA256Hex_eq_true.mp (Option.some.inj h)
  case isFalse =>
    split at h
    case isTrue hbase =>
      rw [if_pos hbase]
      exact verifyHMACSHA256Base64_eq_true.mp (Option.some.inj h)
    case isFalse => cases h

theorem declarativeCredential_of_check {d : DeclarativeDefinition} {text : String} {message : Bytes}
    (htext : d.verification.signature (firstHeader input.headers d.verification.signatureHeader) =
      some text)
    (hmessage : (if contains d.verification.payload timestampTemplate then
      renderPayload d.verification.payload
        (trimSpace (firstHeader input.headers d.verification.timestampHeader)) input.rawBody
      else input.rawBody) = message)
    (hcheck : d.verification.check crypto input.secret message text = some true) :
    declarativeCredential d input.headers input.rawBody =
      some (.sign crypto input.secret message) := by
  unfold declarativeCredential
  dsimp only
  rw [htext, Option.bind_eq_bind, Option.bind_some, DeclarativeVerification.decode_of_check hcheck,
    hmessage]
  rfl

/-- What a declarative adapter found out about a request that it accepts. -/
theorem declarativeVerify_accepted (h : (declarativeVerify crypto d input).verified = true) :
    (∃ message, declarativeCredential d input.headers input.rawBody =
      some (.sign crypto input.secret message)) ∧
    (contains d.verification.payload timestampTemplate = true → ∃ ts,
      parseDeclarativeTimestamp (firstHeader input.headers d.verification.timestampHeader) = some ts ∧
      (0 < d.verification.replayWindowSeconds * second →
        Time.age input.clock ts ≤ d.verification.replayWindowSeconds * second)) := by
  revert h
  fun_cases declarativeVerify crypto d input
  case case6 finish _ _ htext htimestamp _ _ ts hts _ hage =>
    intro h
    dsimp only [finish] at h
    split at h
    case h_3 hcheck =>
      exact ⟨⟨_, declarativeCredential_of_check htext (if_pos htimestamp) hcheck⟩,
        fun _ ↦ ⟨ts, hts, fun hpos ↦ Int.not_lt.mp fun hold ↦ hage ⟨hpos, hold⟩⟩⟩
    all_goals cases h
  case case7 finish _ _ htext htimestamp =>
    intro h
    dsimp only [finish] at h
    split at h
    case h_3 hcheck =>
      exact ⟨⟨_, declarativeCredential_of_check htext (if_neg htimestamp) hcheck⟩, fun h ↦ absurd h htimestamp⟩
    all_goals cases h
  all_goals rintro ⟨⟩

end Webhookery.Provider
