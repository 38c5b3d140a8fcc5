import Webhookery.Capture.Duplicates
import Webhookery.Store.Deliveries
import Webhookery.Store.Jsonb

/-!
# What is read back of an envelope

The hashes of an envelope are taken of its documents as they are written. The store keeps the documents as
`jsonb`, which prints them in a form of its own, so what is read back does not have these hashes.
-/

namespace Webhookery.Capture

open Go Store App Relational Provider

/-- The envelope of a row as it is read back. -/
def readBack (jsonb : Jsonb) (n : NormalizedRow) : NormalizedEnvelope :=
  { n.content with
    envelope := jsonb.text n.envelope, data := jsonb.text n.data, metadata := jsonb.text n.metadata }

/-- `GetNormalizedEvent`, with the data. -/
def getNormalizedEvent (jsonb : Jsonb) (tenantID eventID : String) (db : DB) : Except StoreError NormalizedEnvelope :=
  match db.normalized.byIndex (tenantID, eventID) with
  | none => .error .notFound
  | some n => if n.storageStatus = .deleted then .error .gone else .ok (readBack jsonb n)

/-- The hashes of a row are those of the documents that are read back, and of the payload of a delivery that is
not transformed. -/
structure EvidenceChecks (codec : PayloadCodec) (db : DB) (n : NormalizedRow) : Prop where
  documents : ∀ e, getNormalizedEvent codec.jsonb n.tenantID n.eventID db = .ok e →
    hashSHA256 codec.crypto e.envelope = n.envelopeSHA256 ∧ hashSHA256 codec.crypto e.data = n.dataSHA256 ∧
      hashSHA256 codec.crypto e.metadata = n.metadataSHA256
  payload : ∀ env deliveryID ref db',
    createDeliveryPayload codec env n.tenantID n.eventID deliveryID "" db = .ok (ref, db') →
      ∀ p ∈ db'.deliveryPayloads, p.id = ref.payloadID → p.sha256 = n.envelopeSHA256

theorem EvidenceChecks.data (h : EvidenceChecks codec db n) (hn : n ∈ db.normalized)
    (hstored : n.storageStatus ≠ .deleted) :
    hashSHA256 codec.crypto (codec.jsonb.text n.envelope) = n.envelopeSHA256 ∧
      hashSHA256 codec.crypto (codec.jsonb.text n.data) = n.dataSHA256 := by
  have hread : getNormalizedEvent codec.jsonb n.tenantID n.eventID db = .ok (readBack codec.jsonb n) := by
    rw [getNormalizedEvent, Table.byIndex_eq_some_iff.mpr ⟨hn, rfl⟩]
    exact if_neg hstored
  obtain ⟨henvelope, hdata, -⟩ := h.documents _ hread
  exact ⟨henvelope, hdata⟩

/-- The two texts of an envelope, as it is written and as it is read back, do not collide. -/
def TextsDistinguished (codec : PayloadCodec) (n : NormalizedEnvelope) : Prop :=
  codec.crypto.sha256 (codec.jsonb.text n.envelope) = codec.crypto.sha256 n.envelope →
    codec.jsonb.text n.envelope = n.envelope

theorem exists_envelopeDocument (input : NormalizeInput) (x : Extracted) :
    ∃ m rest, envelopeDocument input x = m :: rest := by
  simp only [envelopeDocument, envelopeEntries, Value.ofMembers, Value.insertKey, List.foldl_cons, List.foldl_nil,
    String.reduceLT, String.reduceEq, reduceIte]
  exact ⟨_, _, rfl⟩

/-- The envelope that a capture writes for a verified request is not read back as it was written. -/
theorem hash_ne_of_verified {codec : PayloadCodec} (hjsonb : codec.jsonb = .standard)
    (hinput : captureInput codec.crypto fuel clock source version req = some input)
    (hverified : input.verificationOK = true) (hdistinguished : ∀ n ∈ input.normalized, TextsDistinguished codec n) :
    ∃ n, input.normalized = some n ∧ hashSHA256 codec.crypto (codec.jsonb.text n.envelope) ≠ n.envelopeHash := by
  obtain ⟨_, _, -, henvelope, rfl⟩ := captureInput_eq_some hinput
  rw [requestEnvelope_of_verified hverified (definition_resolveAdapter source.row version)] at henvelope
  obtain ⟨x, -, rfl⟩ := Option.map_eq_some_iff.mp henvelope
  refine ⟨_, rfl, fun hsame ↦ ?_⟩
  have htext := hdistinguished _ rfl (hexEncode_injective ((String.append_right_inj _).mp hsame))
  obtain ⟨_, _, hdocument⟩ := exists_envelopeDocument _ x
  dsimp only [buildEnvelope] at htext
  rw [hjsonb, hdocument] at htext
  exact text_ne_marshal htext

def hubCodec : PayloadCodec := ⟨Crypto.standard, .standard, fun _ body ↦ some body⟩

instance (codec : PayloadCodec) (n : NormalizedEnvelope) : Decidable (TextsDistinguished codec n) :=
  inferInstanceAs (Decidable (_ → _))

/-- The request is captured, and then captured again. -/
theorem exists_hubCaptures :
    ∃ input ∈ captureInput Crypto.standard 0 ⟨0, 0⟩ hubSource none (hubRequest Crypto.standard true),
      input.verificationOK = true ∧ (∀ n ∈ input.normalized, TextsDistinguished hubCodec n) ∧
      ∃ first, captureInbound (hubEnv "1") input DB.empty = .ok first ∧
        (∃ n ∈ first.2.normalized.rows, n.storageStatus ≠ .deleted ∧
          hashSHA256 Crypto.standard (hubCodec.jsonb.text n.data) ≠ n.dataSHA256) ∧
        (∃ e ∈ first.2.events.rows, e.tenantID = input.tenantID ∧ e.dedupeKey = input.dedupeKey) ∧
        ∃ again, captureInbound (hubEnv "2") input first.2 = .ok again ∧
          again.1.dedupeStatus = .duplicateSuppressed := by
  decide +kernel

end Webhookery.Capture
