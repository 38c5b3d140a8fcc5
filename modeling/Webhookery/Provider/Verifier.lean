import Webhookery.Go.Json
import Webhookery.Go.Sha256

/-!
# Signature verification

The `pkg/verifier` package: HMAC-SHA256 signatures as hexadecimal or base64 text, and the
timestamped header `t=...,v1=...`. The cryptographic functions are a parameter.
-/

namespace Webhookery.Verifier

open Go

def encodingHex : String := "hex"
def encodingBase64 : String := "base64"

def reasonOK : String := "ok"
def reasonMissingSignature : String := "missing_signature"
def reasonMalformedHeader : String := "malformed_header"
def reasonExpiredTimestamp : String := "expired_timestamp"
def reasonInvalidSignature : String := "invalid_signature"
def reasonUnsupportedAlg : String := "unsupported_algorithm"

structure VerifyTimestampedHMACInput where
  (secret rawBody : Bytes)
  header : String
  now : Time
  tolerance : Duration
  (expectedVersion encoding : String)

structure VerificationResult where
  valid : Bool := false
  reason : String
  timestamp : Time := Time.zero
  age : Duration := 0
  signatureVersion : String := ""

section

variable (crypto : Crypto)

def signHMACSHA256Hex (secret payload : Bytes) : String :=
  hexEncode (crypto.hmacSHA256 secret payload)

def signHMACSHA256Base64 (secret payload : Bytes) : String :=
  stdEncoding.encode (crypto.hmacSHA256 secret payload)

def verifyHMACSHA256Hex (secret payload : Bytes) (signature : String) : Bool :=
  match hexDecode signature, hexDecode (signHMACSHA256Hex crypto secret payload) with
  | some got, some want => got == want
  | _, _ => false

def verifyHMACSHA256Base64 (secret payload : Bytes) (signature : String) : Bool :=
  match stdEncoding.decode signature, stdEncoding.decode (signHMACSHA256Base64 crypto secret payload) with
  | some got, some want => got == want
  | _, _ => false

end

/-- The pairs of a header `k=v,k=v`, keys in lower case. -/
def parseKVHeader (header : String) : List (String × String) :=
  (split header ',').filterMap fun part ↦
    match cut (trimSpace part) '=' with
    | some (k, v) => if k = "" then none else some (toLower k, v)
    | none => none

/-- The value of a key: the last pair wins, absent keys are empty. -/
def kvValue (pairs : List (String × String)) (key : String) : String :=
  (pairs.reverse.lookup key).getD ""

/-- The payload that a timestamped header signs. -/
def timestampedPayload (unix : Int) (rawBody : Bytes) : Bytes :=
  bytesOf (formatInt unix ++ ".") ++ rawBody

def verifyTimestampedHMAC (crypto : Crypto) (input : VerifyTimestampedHMACInput) : VerificationResult :=
  let values := parseKVHeader input.header
  let tsRaw := kvValue values "t"
  if tsRaw = "" then { reason := reasonMalformedHeader }
  else
    match parseInt tsRaw with
    | none => { reason := reasonMalformedHeader }
    | some unix =>
      let ts := Time.unix unix
      let age := Time.age input.now ts
      if input.tolerance > 0 ∧ age > input.tolerance then
        { reason := reasonExpiredTimestamp, timestamp := ts, age := age }
      else
        let version := input.expectedVersion
        let signature := kvValue values version
        if signature = "" then
          { reason := reasonMissingSignature, timestamp := ts, age := age, signatureVersion := version }
        else
          let payload := timestampedPayload unix input.rawBody
          let verdict :=
            if input.encoding = "" ∨ input.encoding = encodingHex then
              some (verifyHMACSHA256Hex crypto input.secret payload signature)
            else if input.encoding = encodingBase64 then
              some (verifyHMACSHA256Base64 crypto input.secret payload signature)
            else none
          match verdict with
          | none =>
            { reason := reasonUnsupportedAlg, timestamp := ts, age := age, signatureVersion := version }
          | some false =>
            { reason := reasonInvalidSignature, timestamp := ts, age := age,
              signatureVersion := version }
          | some true =>
            { valid := true, reason := reasonOK, timestamp := ts, age := age,
              signatureVersion := version }

/-! ## What the checks decide -/

section

variable {crypto : Crypto}

/-- A hexadecimal signature is accepted exactly when it spells the keyed hash. -/
theorem verifyHMACSHA256Hex_eq_true :
    verifyHMACSHA256Hex crypto secret payload signature = true ↔
      hexDecode signature = some (crypto.hmacSHA256 secret payload) := by
  rw [verifyHMACSHA256Hex, signHMACSHA256Hex, hexDecode_hexEncode]
  cases hexDecode signature <;> simp

/-- A base64 signature is accepted exactly when it spells the keyed hash. -/
theorem verifyHMACSHA256Base64_eq_true :
    verifyHMACSHA256Base64 crypto secret payload signature = true ↔
      stdEncoding.decode signature = some (crypto.hmacSHA256 secret payload) := by
  rw [verifyHMACSHA256Base64, signHMACSHA256Base64, Base64.decode_encode]
  cases stdEncoding.decode signature <;> simp

end

end Webhookery.Verifier
