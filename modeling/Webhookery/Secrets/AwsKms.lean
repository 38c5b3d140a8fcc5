import Webhookery.Go.Canonical
import Webhookery.Go.Sha256

/-!
# Secrets under AWS KMS

`AWSKMSEnvelope`: every secret is sealed with a data key of its own, which the key service wraps for an encryption
context. The key service, the cipher and the JSON form of the stored blob are parameters with the laws that the
round trip needs. The blob carries the context along, and decryption takes it from there: the tenant and the
purpose that it is asked for play no part.
-/

namespace Webhookery.Secrets

open Go

abbrev EncryptionContext := List (String × String)

def encryptionContext (tenantID purpose : String) : EncryptionContext :=
  [("service", "webhookery")] ++ (if trimSpace tenantID = "" then [] else [("tenant_id", trimSpace tenantID)]) ++
    if trimSpace purpose = "" then [] else [("purpose", trimSpace purpose)]

/-- `AWSKMSClient`: a data key with its wrapped form, and the key that a wrapped form holds. -/
structure KMSClient where
  generateDataKey (keyID : String) (encCtx : EncryptionContext) : Option (Bytes × Bytes)
  decrypt (ciphertextBlob : Bytes) (encCtx : EncryptionContext) : Option Bytes

/-- A data key is unwrapped under the context that it was generated with, and under no other. -/
def KMSClient.BindsContext (client : KMSClient) : Prop :=
  ∀ keyID encCtx key wrapped, client.generateDataKey keyID encCtx = some (key, wrapped) →
    ∀ encCtx', client.decrypt wrapped encCtx' = if encCtx' = encCtx then some key else none

structure AwsKMSBlob where
  (keyID encryptedDataKey nonce ciphertext : String)
  context : EncryptionContext

def nonceSize : Nat := 12

/-- AES-GCM and the JSON form of blobs. -/
structure Primitives where
  gcmSeal (key nonce plaintext : Bytes) : Bytes
  gcmOpen (key nonce sealed : Bytes) : Option Bytes
  gcmOpen_gcmSeal : ∀ key nonce plaintext, gcmOpen key nonce (gcmSeal key nonce plaintext) = some plaintext
  marshal : AwsKMSBlob → Bytes
  unmarshal : Bytes → Option AwsKMSBlob
  unmarshal_marshal : ∀ blob, unmarshal (marshal blob) = some blob

def awsKMSPrefix : String := "aws-kms:v1:"

/-- The value, or the error that stands for its absence. -/
def orError {α : Type} (message : String) : Option α → Except String α
  | some a => .ok a
  | none => .error message

section Envelope

variable (client : KMSClient) (P : Primitives)

/-- `EncryptWithContext`, with what the random reader returned for the nonce. -/
def encryptWithContext (keyID : String) (random : Option { nonce : Bytes // nonce.length = nonceSize })
    (tenantID purpose : String) (plaintext : Bytes) : Except String String :=
  let encCtx := encryptionContext tenantID purpose
  match client.generateDataKey keyID encCtx with
  | none => .error "aws kms generate data key failed"
  | some (key, wrapped) =>
    if key.length ≠ 32 ∨ wrapped = [] then .error "aws kms generate data key returned invalid key material"
    else
      match random with
      | none => .error "unexpected EOF"
      | some nonce =>
        .ok (awsKMSPrefix ++ stdEncoding.encode (P.marshal
          { keyID
            encryptedDataKey := stdEncoding.encode wrapped
            nonce := stdEncoding.encode nonce.1
            ciphertext := stdEncoding.encode (P.gcmSeal key nonce.1 plaintext)
            context := encCtx }))

def decryptWithContext (tenantID purpose ciphertext : String) : Except String Bytes := do
  if !hasPrefix ciphertext awsKMSPrefix then throw "unsupported aws kms ciphertext version"
  let body ← orError "invalid aws kms ciphertext encoding" (stdEncoding.decode (trimPrefix ciphertext awsKMSPrefix))
  let blob ← orError "invalid aws kms ciphertext metadata" (P.unmarshal body)
  let encryptedDataKey ← orError "invalid aws kms encrypted data key" (stdEncoding.decode blob.encryptedDataKey)
  let nonce ← orError "invalid aws kms nonce" (stdEncoding.decode blob.nonce)
  let sealed ← orError "invalid aws kms payload" (stdEncoding.decode blob.ciphertext)
  let encCtx := if blob.context = [] then encryptionContext tenantID purpose else blob.context
  let key ← orError "aws kms decrypt failed" (client.decrypt encryptedDataKey encCtx)
  if key.length ≠ 32 then throw "aws kms decrypt returned invalid key material"
  if nonce.length ≠ nonceSize then throw "invalid aws kms nonce size"
  orError "aws kms payload decrypt failed" (P.gcmOpen key nonce sealed)

variable {client P}

/-- Whoever asks for it gets the secret back: the blob's own context is the one that its key was wrapped for. -/
theorem decryptWithContext_of_encrypted (hbinds : client.BindsContext)
    (h : encryptWithContext client P keyID random t₁ p₁ x = .ok c) (t₂ p₂ : String) :
    decryptWithContext client P t₂ p₂ c = .ok x := by
  revert h
  fun_cases encryptWithContext client P keyID random t₁ p₁ x
  case case4 encCtx key wrapped hkey hvalid nonce =>
    rintro ⟨⟩
    have hunwrapped : client.decrypt wrapped encCtx = some key := by rw [hbinds _ _ _ _ hkey, if_pos rfl]
    have hcontext : encCtx ≠ [] := List.cons_ne_nil _ _
    have htagged (s : String) : hasPrefix (awsKMSPrefix ++ s) awsKMSPrefix = true := by simp [hasPrefix]
    have htrim (s : String) : trimPrefix (awsKMSPrefix ++ s) awsKMSPrefix = s := by
      rw [trimPrefix, cutPrefix, if_pos (htagged s), String.toList_append, ← String.length_toList, List.drop_left]
      exact String.ofList_toList
    simp only [not_or, not_not] at hvalid
    simp [decryptWithContext, htagged, htrim, orError, Base64.decode_encode, P.unmarshal_marshal, hcontext, hunwrapped,
      hvalid.1, nonce.2, P.gcmOpen_gcmSeal, bind, Except.bind]
  all_goals rintro ⟨⟩

/-- A ciphertext opens exactly for the context that it was made for if and only if it is asked for under that. -/
theorem opens_for_context_iff (client : KMSClient) (P : Primitives) (hbinds : client.BindsContext) (keyID t₁ p₁ c : String)
    (random : Option { nonce : Bytes // nonce.length = nonceSize }) (x : Bytes)
    (h : encryptWithContext client P keyID random t₁ p₁ x = .ok c) (t₂ p₂ : String) :
    (((∃ y, decryptWithContext client P t₂ p₂ c = .ok y) ↔ encryptionContext t₁ p₁ = encryptionContext t₂ p₂) ∧
        ∀ y, decryptWithContext client P t₂ p₂ c = .ok y → y = x) ↔
      encryptionContext t₁ p₁ = encryptionContext t₂ p₂ := by
  rw [decryptWithContext_of_encrypted hbinds h]
  simp

end Envelope

/-! ### Blobs in JSON, a box and a key service -/

/-- The members of a blob, and what the decoder makes of each. A context without entries is left out. -/
def blobMembers (blob : AwsKMSBlob) : List (String × Value × Json) :=
  [("key_id", blob.keyID), ("encrypted_data_key", blob.encryptedDataKey), ("nonce", blob.nonce),
    ("ciphertext", blob.ciphertext)].map (fun (k, s) ↦ (k, .str s, .str s)) ++
  if blob.context = [] then [] else
    [("context", .ofStrings blob.context, .obj (blob.context.map fun (k, s) ↦ (k, .str s)))]

def stringField : Option Json → String
  | some (.str s) => s
  | _ => ""

def contextField : Option Json → EncryptionContext
  | some (.obj members) => members.map fun (k, j) ↦ (k, stringField (some j))
  | _ => []

def readBlob (members : List (String × Json)) : AwsKMSBlob where
  keyID := stringField (members.lookup "key_id")
  encryptedDataKey := stringField (members.lookup "encrypted_data_key")
  nonce := stringField (members.lookup "nonce")
  ciphertext := stringField (members.lookup "ciphertext")
  context := contextField (members.lookup "context")

theorem readBlob_blobMembers (blob : AwsKMSBlob) :
    readBlob ((blobMembers blob).map fun m ↦ (m.1, m.2.2)) = blob := by
  obtain ⟨_, _, _, _, context⟩ := blob
  cases context with
  | nil => rfl
  | cons p ps =>
    have hcontext : contextField (some (.obj ((p :: ps).map fun (k, s) ↦ (k, .str s)))) = p :: ps := by
      rw [contextField, List.map_map]
      exact List.map_id _
    exact congrArg (AwsKMSBlob.mk _ _ _ _) hcontext

/-- So many bytes of a keyed hash. -/
def digest (n : Nat) (key data : Bytes) : Bytes :=
  (List.range n).map fun i ↦ (Crypto.standard.hmacSHA256 key data).getD i 0

/-- A keyed stream over a text, which takes itself back. -/
def stream (key nonce body : Bytes) : Bytes := body.mapIdx fun i b ↦ b ^^^ (digest 32 key nonce).getD (i % 32) 0

theorem stream_stream (key nonce body : Bytes) : stream key nonce (stream key nonce body) = body := by
  apply List.ext_getElem <;> simp [stream, UInt8.xor_assoc]

def boxed : Primitives where
  gcmSeal key nonce plaintext :=
    digest 16 key (nonce ++ stream key nonce plaintext) ++ stream key nonce plaintext
  gcmOpen key nonce sealed :=
    if digest 16 key (nonce ++ sealed.drop 16) = sealed.take 16 then some (stream key nonce (sealed.drop 16)) else none
  gcmOpen_gcmSeal key nonce plaintext := by
    have hlength : (digest 16 key (nonce ++ stream key nonce plaintext)).length = 16 := by simp [digest]
    rw [List.drop_left' hlength, List.take_left' hlength, if_pos rfl, stream_stream]
  marshal blob := Value.marshal (.obj ((blobMembers blob).map fun m ↦ (m.1, m.2.1)))
  unmarshal body :=
    match Json.parse (decodeFrom 0 body) with
    | some (.obj members) => some (readBlob members)
    | _ => none
  unmarshal_marshal blob := by
    have hmembers : ∀ m ∈ blobMembers blob, Value.Reads 9999 m.2.1 m.2.2 := by
      intro m hm
      rcases List.mem_append.mp hm with hm | hm
      · obtain ⟨_, -, rfl⟩ := List.mem_map.mp hm
        exact .str _
      · split at hm
        · cases hm
        · rw [List.mem_singleton.mp hm]
          exact Value.reads_ofStrings _
    have hparse := (Value.Reads.obj (f := Prod.fst) hmembers).parse [] rfl
    rw [List.append_nil] at hparse
    rw [Value.marshal, decodeFrom_utf8Encode, hparse]
    exact congrArg some (readBlob_blobMembers blob)

/-- A key service whose wrapped keys carry their context. -/
def keyService : KMSClient where
  generateDataKey keyID encCtx :=
    let key := digest 32 (bytesOf keyID) (Value.marshal (.ofStrings encCtx))
    some (key, key ++ Value.marshal (.ofStrings encCtx))
  decrypt wrapped encCtx :=
    if wrapped.drop 32 = Value.marshal (.ofStrings encCtx) then some (wrapped.take 32) else none

theorem bindsContext_keyService : keyService.BindsContext := by
  intro keyID encCtx _ _ hkey encCtx'
  obtain ⟨rfl, rfl⟩ := Prod.mk.inj (Option.some.inj hkey)
  have hlength : (digest 32 (bytesOf keyID) (Value.marshal (.ofStrings encCtx))).length = 32 := by simp [digest]
  simp only [keyService, List.drop_left' hlength, List.take_left' hlength]
  refine if_congr ?_ rfl rfl
  exact Value.marshal_ofStrings_injective.eq_iff.trans eq_comm

def acmeCiphertext : Except String String :=
  encryptWithContext keyService boxed "k" (some ⟨List.replicate 12 0, rfl⟩) "acme" "key" [1]

theorem exists_acmeCiphertext : ∃ c, acmeCiphertext = .ok c := by
  simp [acmeCiphertext, encryptWithContext, keyService, digest, List.range_succ]

theorem acme_secret_opens :
    ∃ c, acmeCiphertext = .ok c ∧ decryptWithContext keyService boxed " acme" "key" c = .ok [1] := by
  have hsame : encryptionContext "acme" "key" = encryptionContext " acme" "key" := by decide +kernel
  obtain ⟨c, hc⟩ := exists_acmeCiphertext
  have hiff := opens_for_context_iff keyService boxed bindsContext_keyService _ _ _ _ _ _ hc " acme" "key"
  obtain ⟨hopens, hplain⟩ := hiff.mpr hsame
  obtain ⟨y, hy⟩ := hopens.mpr hsame
  exact ⟨c, hc, hplain y hy ▸ hy⟩

/-- The secret of one tenant opens for another. -/
theorem acme_secret_opens_elsewhere :
    encryptionContext "acme" "key" ≠ encryptionContext "evil" "other" ∧ keyService.BindsContext ∧
      ∃ c, acmeCiphertext = .ok c ∧ decryptWithContext keyService boxed "evil" "other" c = .ok [1] := by
  obtain ⟨c, hc⟩ := exists_acmeCiphertext
  exact ⟨by decide +kernel, bindsContext_keyService, c, hc,
    decryptWithContext_of_encrypted bindsContext_keyService hc "evil" "other"⟩

end Webhookery.Secrets
