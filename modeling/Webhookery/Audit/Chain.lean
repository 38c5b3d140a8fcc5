import Webhookery.Go.Calendar
import Webhookery.Go.Canonical
import Webhookery.Go.Sha256
import Webhookery.Relational.HashChain

/-!
# The audit chain

The hashes of `auditchain`: an event is hashed over all its columns, and a link over the event's hash and the
chain hash before it. As far as the hash function tells its inputs apart, so do both: the event is
determined by its hash, and a link by its two parts.
-/

namespace Webhookery.Audit

open Go Relational

/-- A row of `audit_events`. -/
structure AuditEvent where
  (id tenantID actorID action resource resourceID reason : String)
  occurredAt : Time
  deriving DecidableEq, Repr

/-- The states of a chain entry; the column is a text, so others can be stored by hand. -/
inductive EntryState where
  | active
  | retained
  | other (text : String)
  deriving DecidableEq, Repr

/-- A row of `audit_chain_entries`. -/
structure AuditChainEntry where
  (id tenantID : String)
  sequence : Int
  (auditEventID eventHash previousChainHash chainHash canonicalizationVersion source : String)
  state : EntryState
  auditEventDeletedAt : Option Time
  tombstoneReason : String
  createdAt : Time
  deriving DecidableEq, Repr

def canonicalizationVersion : String := "audit-chain-v1"

variable (crypto : Crypto)

def hash (raw : Bytes) : String := "sha256:" ++ hexEncode (crypto.sha256 raw)

/-- `canonicalEvent`: the fields in the order of the struct. -/
def canonicalEvent (event : AuditEvent) : List (String × String) :=
  [("id", event.id), ("tenant_id", event.tenantID), ("actor_id", event.actorID), ("action", event.action),
    ("resource", event.resource), ("resource_id", event.resourceID), ("reason", event.reason),
    ("occurred_at", formatRFC3339Nano event.occurredAt)]

/-- `auditchain.EventHash`. -/
def eventHash (event : AuditEvent) : String :=
  hash crypto (Value.marshal (Value.ofStrings (canonicalEvent event)))

/-- `auditchain.ChainHash`: a map literal, marshalled in the order of its keys. -/
def chainHash (previousChainHash eventHash : String) : String :=
  hash crypto (Value.marshal (Value.ofStrings [("canonicalization_version", canonicalizationVersion),
    ("event_hash", eventHash), ("previous_chain_hash", previousChainHash)]))

/-- `auditchain.PreviousHashForSequence`. -/
def previousHashForSequence (sequence : Int) (previous : String) : String :=
  if sequence ≤ 1 then "" else previous

/-- `auditchain.ComputeEntry`. -/
def computeEntry (id : String) (event : AuditEvent) (sequence : Int) (previousChainHash source : String)
    (createdAt : Time) : AuditChainEntry :=
  let previous := previousHashForSequence sequence previousChainHash
  { id, tenantID := event.tenantID, sequence, auditEventID := event.id, eventHash := eventHash crypto event,
    previousChainHash := previous, chainHash := chainHash crypto previous (eventHash crypto event),
    canonicalizationVersion, source, state := .active, auditEventDeletedAt := none, tombstoneReason := "",
    createdAt }

/-- How chain entries are linked. -/
def links : Links AuditChainEntry String String where
  sequence := AuditChainEntry.sequence
  payload := AuditChainEntry.eventHash
  previous := AuditChainEntry.previousChainHash
  hash := AuditChainEntry.chainHash
  link := chainHash crypto

/-! ## What the hashes determine -/

variable {crypto}

theorem hash_ne_empty (raw : Bytes) : hash crypto raw ≠ "" := by
  intro h
  have hlength := congrArg String.length h
  simp [hash, String.length_append] at hlength

theorem hash_injective (hsha : Function.Injective crypto.sha256) : Function.Injective (hash crypto) := by
  intro a b h
  have hhex : hexEncode (crypto.sha256 a) = hexEncode (crypto.sha256 b) := (String.append_right_inj _).mp h
  exact hsha (hexEncode_injective hhex)

theorem canonicalEvent_injective : Function.Injective canonicalEvent := by
  intro e e' h
  simp only [canonicalEvent, List.cons.injEq, Prod.mk.injEq, true_and, and_true] at h
  obtain ⟨_, _, _, _, _, _, _, htime⟩ := h
  have htime := formatRFC3339Nano_injective htime
  cases e
  cases e'
  simp_all

theorem eventHash_injective (hsha : Function.Injective crypto.sha256) :
    Function.Injective (eventHash crypto) := fun _ _ h ↦
  canonicalEvent_injective (Value.marshal_ofStrings_injective (hash_injective hsha h))

theorem chainHash_inj (hsha : Function.Injective crypto.sha256)
    (h : chainHash crypto previous event = chainHash crypto previous' event') :
    previous = previous' ∧ event = event' := by
  have hfields := Value.marshal_ofStrings_injective (hash_injective hsha h)
  simp only [List.cons.injEq, Prod.mk.injEq, true_and, and_true] at hfields
  exact ⟨hfields.2, hfields.1⟩

end Webhookery.Audit
