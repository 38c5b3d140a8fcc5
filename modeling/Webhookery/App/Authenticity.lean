import Webhookery.App.Verdict
import Webhookery.Provider.Credentials

/-!
# Verified events and signed requests

When a verdict stands for a signature. The adapters that ask for one verify only requests that
carry the keyed hash of a message under an accepted secret; the internal adapter verifies every
request, and the accepted secret may be empty.
-/

namespace Webhookery.App

open Go Provider Store

/-! ## Signatures of a request -/

def Adapter.credential (req : IngestRequest) : Adapter → Option Credential
  | .builtIn b => b.credential (canonicalHeaders req.headers) req.rawBody
  | .declarative d => declarativeCredential d (canonicalHeaders req.headers) req.rawBody

/-- A request carries a signature, made with a secret that is not empty and is accepted for the
source, that the adapter finds valid. -/
def Authentic (crypto : Crypto) (clock : Clock) (source : LoadedSource) (adapter : Adapter)
    (req : IngestRequest) : Prop :=
  ∃ secret ∈ source.verificationSecrets, secret ≠ [] ∧
    (adapter.verify crypto (verifyInput clock req secret)).verified = true ∧
      ∃ message, adapter.credential req = some (.sign crypto secret message)

/-- The built-in adapter that verifies the requests of a source, if there is one. -/
def builtInOf (row : Source) : Option BuiltIn :=
  (builtInAdapter row.adapter).or (builtInAdapter row.provider)

/-- The source has an adapter that asks for signatures and no empty secret, or an adapter that
verifies nothing. -/
def Guarded (source : LoadedSource) : Prop :=
  builtInOf source.row ≠ some .internalTrusted ∧
    ([] ∈ source.verificationSecrets →
      builtInOf source.row = some .cloudEvents ∨ builtInOf source.row = some .genericUnsafe)

instance (source : LoadedSource) : Decidable (Guarded source) :=
  inferInstanceAs (Decidable (_ ∧ _))

section

variable {crypto : Crypto} {clock : Clock} {source : LoadedSource} {version : Option AdapterVersion}
  {req : IngestRequest}

/-- A built-in adapter comes before any declarative one. -/
theorem resolveAdapter_eq (row : Source) (version : Option AdapterVersion) :
    resolveAdapter row version = match builtInOf row with
      | some b => ⟨.builtIn b, []⟩
      | none => (declarativeAdapter version).getD ⟨.builtIn .genericUnsafe, []⟩ := by
  unfold resolveAdapter builtInOf
  cases builtInAdapter row.adapter with
  | some => rfl
  | none => cases builtInAdapter row.provider <;> rfl

theorem resolveAdapter_of_builtInOf (h : builtInOf row = some b) : resolveAdapter row version = ⟨.builtIn b, []⟩ := by
  rw [resolveAdapter_eq, h]

theorem resolveAdapter_ne_internal (h : builtInOf row ≠ some .internalTrusted) :
    (resolveAdapter row version).adapter ≠ .builtIn .internalTrusted := by
  rw [resolveAdapter_eq]
  cases hb : builtInOf row with
  | some =>
    intro heq
    obtain rfl := Adapter.builtIn.inj heq
    exact h hb
  | none =>
    unfold declarativeAdapter
    cases version with
    | none => exact nofun
    | some v =>
      simp only [Option.bind_eq_bind, Option.bind_some]
      split
      · cases parseDeclarativeDefinition v.definition <;> exact nofun
      · exact nofun

theorem Adapter.verify_signed {adapter : Adapter} {secret : Bytes} (hne : adapter ≠ .builtIn .internalTrusted)
    (h : (adapter.verify crypto (verifyInput clock req secret)).verified = true) :
    ∃ message, adapter.credential req = some (.sign crypto secret message) := by
  cases adapter with
  | builtIn b =>
    have hb : b ≠ .internalTrusted := fun hb ↦ hne (congrArg Adapter.builtIn hb)
    have hverified : (b.verify crypto (verifyInput clock req secret)).verified = true := h
    obtain ⟨message, hmessage⟩ := BuiltIn.verify_signed hb hverified
    exact ⟨message, hmessage⟩
  | declarative d =>
    have hverified : (declarativeVerify crypto d (verifyInput clock req secret)).verified = true := h
    obtain ⟨message, hmessage⟩ := (declarativeVerify_accepted hverified).1
    exact ⟨message, hmessage⟩

/-- For a guarded source the verdict is that the request is authentic. -/
theorem authentic_of_verifiesUnder (hguarded : Guarded source)
    (h : VerifiesUnder crypto clock source (resolveAdapter source.row version).adapter req) :
    Authentic crypto clock source (resolveAdapter source.row version).adapter req := by
  obtain ⟨secret, hsecret, hverified⟩ := h
  obtain ⟨message, hmessage⟩ :=
    Adapter.verify_signed (resolveAdapter_ne_internal hguarded.1) hverified
  refine ⟨secret, hsecret, ?_, hverified, message, hmessage⟩
  rintro rfl
  rcases hguarded.2 hsecret with hb | hb <;> rw [resolveAdapter_of_builtInOf hb] at hmessage <;>
    cases hmessage

end

/-! ## Sources that are not guarded -/

/-- What `CreateSource` and `RotateSourceSecret` ensure: only a source of the internal provider has an
empty secret. -/
def Accepted (source : LoadedSource) : Prop :=
  [] ∈ source.verificationSecrets → source.row.provider = "internal"

/-- A keyed hash that tells the empty key from every other one. -/
def emptyKeyHash : Crypto where
  sha256 := fun _ ↦ []
  hmacSHA256 := fun key _ ↦ if key = [] then [0] else [1]

/-- A request that carries, in the header of each adapter, its signature under the empty key. -/
def forgedRequest : IngestRequest where
  rawBody := bytesOf "\x7b\"id\":\"e1\"\x7d"
  headers :=
    [⟨"Stripe-Signature", "t=0,v1=00"⟩, ⟨"X-Hub-Signature-256", "sha256=00"⟩,
      ⟨"X-Shopify-Hmac-Sha256", "AA=="⟩, ⟨"X-Slack-Request-Timestamp", "0"⟩,
      ⟨"X-Slack-Signature", "v0=00"⟩, ⟨"Webhook-Signature", "sha256=00"⟩,
      ⟨"Webhook-Jwt", "eyJhbGciOiJIUzI1NiJ9.eyJleHAiOjk5OTk5OTk5OTl9.AA"⟩]
  contentType := "application/json"
  remoteIP := "192.0.2.1"

theorem guarded_of_authentic (haccepted : Accepted source) (hsecrets : source.verificationSecrets ≠ [])
    (h : ∀ crypto clock req,
      VerifiesUnder crypto clock source (resolveAdapter source.row version).adapter req →
        Authentic crypto clock source (resolveAdapter source.row version).adapter req) :
    Guarded source := by
  constructor
  · intro hinternal
    rw [resolveAdapter_of_builtInOf hinternal] at h
    obtain ⟨secret, hsecret⟩ := List.exists_mem_of_ne_nil _ hsecrets
    obtain ⟨_, -, -, -, _, hmessage⟩ := h emptyKeyHash ⟨0, 0⟩ forgedRequest ⟨secret, hsecret, rfl⟩
    cases hmessage
  · intro hempty
    obtain ⟨b, hb⟩ : ∃ b, builtInOf source.row = some b := by
      unfold builtInOf
      rw [haccepted hempty]
      cases builtInAdapter source.row.adapter with
      | some b => exact ⟨b, rfl⟩
      | none => exact ⟨.internalTrusted, by decide⟩
    rw [resolveAdapter_of_builtInOf hb] at h
    rw [hb]
    -- an adapter that asks for a signature accepts the one under the empty key
    have hforged (hverify : (b.verify emptyKeyHash (verifyInput ⟨0, 0⟩ forgedRequest [])).verified = true)
        (hsignature : ((Adapter.builtIn b).credential forgedRequest).map (·.signature) = some [0]) : False := by
      obtain ⟨_, -, hnonempty, -, _, hmessage⟩ := h emptyKeyHash ⟨0, 0⟩ forgedRequest ⟨[], hempty, hverify⟩
      rw [hmessage] at hsignature
      simp [Credential.sign, emptyKeyHash, hnonempty] at hsignature
    cases b with
    | cloudEvents => exact .inl rfl
    | genericUnsafe => exact .inr rfl
    | internalTrusted =>
      obtain ⟨_, -, -, -, _, hmessage⟩ := h emptyKeyHash ⟨0, 0⟩ forgedRequest ⟨[], hempty, rfl⟩
      cases hmessage
    | _ => exact (hforged (by decide +kernel) (by decide +kernel)).elim

/-- Every verified event of a guarded source comes from a signed request, whatever keyed hash is used.
For a source that is not guarded there are a keyed hash and a request without a valid signature that
verify. -/
theorem verified_signed_when_guarded {source : LoadedSource} {db : DB} {now : Time} {p : Source → Bool}
    (hload : loadSource now p db = .ok source) (haccepted : Accepted source) :
    (Guarded source → ∀ crypto fuel clock env req result db',
      capture crypto fuel clock env req source db = some (.ok (result, db')) →
      result.dedupeStatus = .unique → (∃ e ∈ db'.events, e.id = result.eventID ∧ e.verified = true) →
      Authentic crypto clock source (resolveAdapter source.row
        (activeDeclarativeAdapterVersion source.row.tenantID source.row.adapter db)).adapter req) ∧
      ((∀ crypto clock req, VerifiesUnder crypto clock source (resolveAdapter source.row
          (activeDeclarativeAdapterVersion source.row.tenantID source.row.adapter db)).adapter req →
        Authentic crypto clock source (resolveAdapter source.row
          (activeDeclarativeAdapterVersion source.row.tenantID source.row.adapter db)).adapter req) →
        Guarded source) := by
  refine ⟨?_, guarded_of_authentic haccepted ?_⟩
  · intro hguarded crypto fuel clock env req result db' hcapture hunique hverified
    obtain ⟨event, hevent, hid, hverdict⟩ := (records_of_capture hload hcapture).event hunique
    obtain ⟨e, he, heid, hok⟩ := hverified
    obtain rfl : e = event := db'.events.eq_of_key_eq he hevent (heid.trans hid.symm)
    exact authentic_of_verifiesUnder hguarded (hverdict.mp hok)
  · rw [(loadSource_eq_ok hload).2.2]
    exact sourceVerificationSecrets_ne_nil now source.row db

/-! ### A source with a declarative adapter -/

theorem guarded_acmeSource : Guarded (acmeSource "acme") ∧ Accepted (acmeSource "acme") := by
  have hsecret : [] ∉ (acmeSource "acme").verificationSecrets := by decide +kernel
  exact ⟨⟨by decide +kernel, fun h ↦ absurd h hsecret⟩, fun h ↦ absurd h hsecret⟩

/-- The signed request to the source is recorded as verified, and it is authentic. -/
theorem signed_request_authentic :
    ∃ result db', capture checksum 0 ⟨0, 0⟩ acmeEnv (acmeRequest checksum) (acmeSource "acme")
        (acmeDB "acme") = some (.ok (result, db')) ∧
      (∃ e ∈ db'.events, e.id = result.eventID ∧ e.verified = true) ∧
      Authentic checksum ⟨0, 0⟩ (acmeSource "acme") (resolveAdapter (acmeSource "acme").row
        (activeDeclarativeAdapterVersion (acmeSource "acme").row.tenantID
          (acmeSource "acme").row.adapter (acmeDB "acme"))).adapter (acmeRequest checksum) := by
  obtain ⟨result, db', hcapture, hunique, hverified⟩ : ∃ result db', capture checksum 0 ⟨0, 0⟩ acmeEnv
      (acmeRequest checksum) (acmeSource "acme") (acmeDB "acme") = some (.ok (result, db')) ∧
      result.dedupeStatus = .unique ∧ ∃ e ∈ db'.events, e.id = result.eventID ∧ e.verified = true := by decide +kernel
  have hload : loadSource 0 (fun s ↦ s.tenantID == "t" && s.id == "src_1") (acmeDB "acme") =
    .ok (acmeSource "acme") := (findSource_acmeDB "acme" (by decide)).1
  exact ⟨result, db', hcapture, hverified, (verified_signed_when_guarded hload guarded_acmeSource.2).1
    guarded_acmeSource.1 checksum 0 ⟨0, 0⟩ acmeEnv (acmeRequest checksum) result db' hcapture hunique
    hverified⟩

/-! ### A source of the internal provider -/

/-- The state after `CreateSource` with a provider, its adapter and a secret. -/
def sourceDB (provider adapter secret : String) : DB :=
  match createSource acmeEnv "t" ⟨"orders", provider, adapter, secret⟩ DB.empty with
  | .ok (_, db) => db
  | .error _ => DB.empty

def sourceOf (provider adapter secret : String) : LoadedSource where
  row := newSourceRow acmeEnv "t" ⟨"orders", provider, adapter, secret⟩
  verificationSecret := bytesOf secret
  verificationSecrets := [bytesOf secret]

/-- A request without headers. -/
def bareRequest : IngestRequest where
  rawBody := bytesOf "\x7b\"id\":\"e1\"\x7d"
  headers := []
  contentType := "application/json"
  remoteIP := "192.0.2.1"

/-- `CreateSource` accepts a source of the internal provider without a secret, and one of another
provider with the internal adapter. A request without any header is recorded as a verified event of
both. -/
theorem unsigned_request_verified :
    [("internal", "", ""), ("stripe", "internal", "key")].Forall fun p ↦
      findSource 0 "t" "src_1" (sourceDB p.1 p.2.1 p.2.2) = .ok (sourceOf p.1 p.2.1 p.2.2) ∧
      ∃ result db', ingest Crypto.standard 0 ⟨0, 0⟩ acmeEnv bareRequest "t" "src_1"
          (sourceDB p.1 p.2.1 p.2.2) = some (.ok (result, db')) ∧
        result.dedupeStatus = .unique ∧
        (∃ e ∈ db'.events, e.id = result.eventID ∧ e.verified = true) ∧
        ∀ version, ¬Authentic Crypto.standard ⟨0, 0⟩ (sourceOf p.1 p.2.1 p.2.2)
          (resolveAdapter (sourceOf p.1 p.2.1 p.2.2).row version).adapter bareRequest := by
  have hsources : ∀ p ∈ [("internal", "", ""), ("stripe", "internal", "key")],
      findSource 0 "t" "src_1" (sourceDB p.1 p.2.1 p.2.2) = .ok (sourceOf p.1 p.2.1 p.2.2) ∧
        builtInOf (sourceOf p.1 p.2.1 p.2.2).row = some .internalTrusted := by
    decide +kernel
  have hruns : ∀ p ∈ [("internal", "", ""), ("stripe", "internal", "key")],
      ∃ result db', ingest Crypto.standard 0 ⟨0, 0⟩ acmeEnv bareRequest "t" "src_1" (sourceDB p.1 p.2.1 p.2.2) =
        some (.ok (result, db')) ∧ result.dedupeStatus = .unique ∧
          ∃ e ∈ db'.events, e.id = result.eventID ∧ e.verified = true := by decide +kernel
  rw [List.forall_iff_forall_mem]
  intro p hp
  obtain ⟨hsource, hinternal⟩ := hsources p hp
  obtain ⟨result, db', hingest, hunique, hverified⟩ := hruns p hp
  refine ⟨hsource, result, db', hingest, hunique, hverified, fun version ↦ ?_⟩
  rintro ⟨_, -, -, -, _, hmessage⟩
  rw [resolveAdapter_of_builtInOf hinternal] at hmessage
  cases hmessage

end Webhookery.App
