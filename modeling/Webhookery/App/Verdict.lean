import Webhookery.App.Capture

/-!
# The verdict of a capture

Which adapter decides whether a request verified, and what the receipt and the event of the
request record of it.
-/

namespace Webhookery.App

open Go Provider Store Relational

variable {crypto : Crypto} {fuel : Nat} {clock : Clock} {env : Env} {req : IngestRequest}
  {source : LoadedSource} {db db' : DB} {result : IngestResult}

/-! ## Adapter resolution -/

theorem resolveAdapter_of_declarative (hadapter : builtInAdapter row.adapter = none)
    (hprovider : builtInAdapter row.provider = none) (hdeclarative : version.declarative = true)
    (hactive : version.state = .active)
    (hdefinition : parseDeclarativeDefinition version.definition = some d) :
    resolveAdapter row (some version) = ⟨.declarative d, version.definition⟩ := by
  simp [resolveAdapter, hadapter, hprovider, declarativeAdapter, hdeclarative, hactive, hdefinition]

/-- Whether an adapter verifies a request under one of the accepted secrets of a source. -/
def VerifiesUnder (crypto : Crypto) (clock : Clock) (source : LoadedSource) (adapter : Adapter)
    (req : IngestRequest) : Prop :=
  ∃ secret ∈ source.verificationSecrets,
    (adapter.verify crypto (verifyInput clock req secret)).verified = true

instance (crypto : Crypto) (clock : Clock) (source : LoadedSource) (adapter : Adapter)
    (req : IngestRequest) : Decidable (VerifiesUnder crypto clock source adapter req) :=
  inferInstanceAs (Decidable (∃ secret ∈ source.verificationSecrets, _))

/-! ## Recorded verdicts -/

/-- The receipt of a capture records the verdict, and so does its event when it is new. -/
structure Records (result : IngestResult) (db' : DB) (verdict : Prop) : Prop where
  receipt : ∃ receipt ∈ db'.receipts,
    receipt.id = result.receiptID ∧ (receipt.verifyOK = true ↔ verdict)
  event : result.dedupeStatus = .unique →
    ∃ event ∈ db'.events, event.id = result.eventID ∧ (event.verified = true ↔ verdict)

/-- A committed capture records the verdict of the adapter that was resolved. -/
theorem records_of_capture (hload : loadSource now p db = .ok source)
    (hcapture : capture crypto fuel clock env req source db = some (.ok (result, db'))) :
    Records result db' (VerifiesUnder crypto clock source
      (resolveAdapter source.row
        (activeDeclarativeAdapterVersion source.row.tenantID source.row.adapter db)).adapter req) := by
  obtain ⟨-, input, committed, hinput, hcommit, heventID, hreceiptID, -, hstatus⟩ :=
    capture_eq_ok hcapture
  obtain ⟨hwrites, hcommittedReceipt, -⟩ := captureInbound_committed hcommit
  have hsecrets : source.verificationSecrets ≠ [] := by
    rw [(loadSource_eq_ok hload).2.2]
    exact sourceVerificationSecrets_ne_nil now source.row db
  have hverdict : input.verificationOK = true ↔ VerifiesUnder crypto clock source (resolveAdapter source.row
      (activeDeclarativeAdapterVersion source.row.tenantID source.row.adapter db)).adapter req := by
    obtain ⟨_, _, rfl, -, rfl⟩ := captureInput_eq_some hinput
    rw [VerifiesUnder, ← (if_pos hsecrets : secretsToTry source = _)]
    exact firstVerified_eq_true_iff rfl
  constructor
  · refine ⟨captureReceiptRow env input committed.eventID, ?_, ?_, hverdict⟩
    · exact (Table.mem_of_rows_append hwrites.receipts).mpr (.inr rfl)
    · rw [hreceiptID, hcommittedReceipt]
      rfl
  · intro hunique
    rw [hstatus] at hunique
    cases hwrites.resolves with
    | new _ id _ events =>
      refine ⟨captureEventRow env input, ?_, ?_, hverdict⟩
      · exact (Table.mem_of_rows_append events).mpr (.inr rfl)
      · rw [heventID, id]
        rfl
    | duplicate _ isDuplicate => cases hunique.symm.trans isDuplicate

/-- With an active declarative adapter, the verdict is its own unless the provider name of the
source is that of a built-in adapter, which then decides. -/
theorem capture_records_declarative {now : Time} {p : Source → Bool} {version : AdapterVersion}
    {d : DeclarativeDefinition} (hload : loadSource now p db = .ok source)
    (hadapter : builtInAdapter source.row.adapter = none)
    (hversion : activeDeclarativeAdapterVersion source.row.tenantID source.row.adapter db =
      some version)
    (hdefinition : parseDeclarativeDefinition version.definition = some d)
    (hcapture : capture crypto fuel clock env req source db = some (.ok (result, db'))) :
    (builtInAdapter source.row.provider = none →
      Records result db' (VerifiesUnder crypto clock source (.declarative d) req)) ∧
    ∀ b, builtInAdapter source.row.provider = some b →
      Records result db' (VerifiesUnder crypto clock source (.builtIn b) req) := by
  have hrecords := records_of_capture hload hcapture
  rw [hversion] at hrecords
  constructor
  · intro hprovider
    obtain ⟨hdeclarative, hactive⟩ := activeDeclarativeAdapterVersion_eq_some hversion
    rwa [resolveAdapter_of_declarative hadapter hprovider hdeclarative hactive hdefinition]
      at hrecords
  · intro b hprovider
    simpa only [resolveAdapter, hadapter, hprovider] using hrecords

/-! ### A source with a declarative adapter -/

instance {outcome : Option (Except StoreError (IngestResult × DB))} {p : IngestResult → DB → Prop}
    [∀ result db, Decidable (p result db)] : Decidable (∃ result db, outcome = some (.ok (result, db)) ∧ p result db) :=
  match outcome with
  | some (.ok (result, db)) => decidable_of_iff (p result db) ⟨fun h ↦ ⟨result, db, rfl, h⟩, by rintro ⟨_, _, ⟨⟩, h⟩; exact h⟩
  | some (.error _) | none => isFalse nofun

/-- The body is signed in one header. -/
def acmeDefinition : DeclarativeDefinition where
  name := "acme"
  verification := { type := "hmac_sha256", signatureHeader := "X-Acme-Signature" }

def acmeVersion : AdapterVersion where
  id := "av_acme"
  tenantID := some "t"
  name := "acme"
  declarative := true
  state := .active
  definition := bytesOf ("\x7b\"name\":\"acme\",\"verification\":\x7b\"type\":\"hmac_sha256\"," ++
    "\"signature_header\":\"X-Acme-Signature\"\x7d\x7d")
  activatedAt := some 0
  createdAt := 0

def acmeEnv : Env := ⟨0, fun _ _ ↦ "1", false, fun _ _ _ ↦ none⟩

def acmeSource (provider : String) : LoadedSource where
  row := newSourceRow acmeEnv "t" ⟨"orders", provider, "acme", "key"⟩
  verificationSecret := bytesOf "key"
  verificationSecrets := [bytesOf "key"]

/-- The state after `CreateSource` for the adapter and a provider name. -/
def acmeDB (provider : String) : DB :=
  match (Table.empty.insert? acmeVersion).map fun adapterVersions ↦
    createSource acmeEnv "t" ⟨"orders", provider, "acme", "key"⟩ { DB.empty with adapterVersions } with
  | some (.ok (_, db)) => db
  | _ => DB.empty

/-- Digests of one byte, to evaluate a whole capture with. -/
def checksum : Crypto where
  sha256 := fun body ↦ [body.foldl (· + ·) 0]
  hmacSHA256 := fun key body ↦ [(key ++ body).foldl (· + ·) 1]

/-- A request that carries the signature the declarative adapter asks for. -/
def acmeRequest (crypto : Crypto) : IngestRequest where
  rawBody := bytesOf "\x7b\"id\":\"e1\"\x7d"
  headers := [⟨"X-Acme-Signature", Verifier.signHMACSHA256Hex crypto (bytesOf "key")
    (bytesOf "\x7b\"id\":\"e1\"\x7d")⟩]
  contentType := "application/json"
  remoteIP := "192.0.2.1"

theorem findSource_acmeDB :
    ∀ provider ∈ ["stripe", "acme"],
      findSource 0 "t" "src_1" (acmeDB provider) = .ok (acmeSource provider) ∧
        builtInAdapter (acmeSource provider).row.adapter = none ∧
        activeDeclarativeAdapterVersion (acmeSource provider).row.tenantID
          (acmeSource provider).row.adapter (acmeDB provider) = some acmeVersion := by
  decide +kernel

theorem parseDeclarativeDefinition_acme : parseDeclarativeDefinition acmeVersion.definition = some acmeDefinition := by
  decide +kernel

/-- For a source of provider `stripe`, the declarative adapter verifies the request under the
accepted secret, and the capture records that the request did not verify. -/
theorem stripe_provider_overrides_declarative :
    ∃ result db',
      findSource 0 "t" "src_1" (acmeDB "stripe") = .ok (acmeSource "stripe") ∧
      builtInAdapter (acmeSource "stripe").row.adapter = none ∧
      activeDeclarativeAdapterVersion (acmeSource "stripe").row.tenantID
        (acmeSource "stripe").row.adapter (acmeDB "stripe") = some acmeVersion ∧
      parseDeclarativeDefinition acmeVersion.definition = some acmeDefinition ∧
      capture Crypto.standard 0 ⟨0, 0⟩ acmeEnv (acmeRequest Crypto.standard) (acmeSource "stripe")
        (acmeDB "stripe") = some (.ok (result, db')) ∧
      VerifiesUnder Crypto.standard ⟨0, 0⟩ (acmeSource "stripe") (.declarative acmeDefinition)
        (acmeRequest Crypto.standard) ∧
      ∀ receipt ∈ db'.receipts, receipt.verifyOK = false := by
  obtain ⟨result, db', hcapture, hreceipts⟩ : ∃ result db', capture Crypto.standard 0 ⟨0, 0⟩ acmeEnv
      (acmeRequest Crypto.standard) (acmeSource "stripe") (acmeDB "stripe") = some (.ok (result, db')) ∧
      ∀ receipt ∈ db'.receipts, receipt.verifyOK = false := by decide +kernel
  obtain ⟨hsource, hadapter, hversion⟩ := findSource_acmeDB "stripe" (by decide)
  exact ⟨result, db', hsource, hadapter, hversion, parseDeclarativeDefinition_acme, hcapture, by decide +kernel, hreceipts⟩

/-- The same request to a source of provider `acme` is recorded as the adapter decides. -/
theorem capture_records_declarative_acme :
    ∃ result db',
      capture checksum 0 ⟨0, 0⟩ acmeEnv (acmeRequest checksum) (acmeSource "acme") (acmeDB "acme") =
        some (.ok (result, db')) ∧
      (∀ receipt ∈ db'.receipts, receipt.verifyOK = true) ∧
      Records result db' (VerifiesUnder checksum ⟨0, 0⟩ (acmeSource "acme")
        (.declarative acmeDefinition) (acmeRequest checksum)) := by
  obtain ⟨result, db', hcapture, hreceipts⟩ : ∃ result db', capture checksum 0 ⟨0, 0⟩ acmeEnv (acmeRequest checksum)
      (acmeSource "acme") (acmeDB "acme") = some (.ok (result, db')) ∧
      ∀ receipt ∈ db'.receipts, receipt.verifyOK = true := by decide +kernel
  obtain ⟨hsource, hadapter, hversion⟩ := findSource_acmeDB "acme" (by decide)
  have hload : loadSource 0 (fun s ↦ s.tenantID == "t" && s.id == "src_1") (acmeDB "acme") =
    .ok (acmeSource "acme") := hsource
  have hprovider : builtInAdapter (acmeSource "acme").row.provider = none := by decide +kernel
  exact ⟨result, db', hcapture, hreceipts, (capture_records_declarative hload hadapter hversion
    parseDeclarativeDefinition_acme hcapture).1 hprovider⟩

end Webhookery.App
