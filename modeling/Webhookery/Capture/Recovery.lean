import Webhookery.Capture.Duplicates

/-!
# Live and recovered captures

Runs that mix `CaptureInbound` with `CaptureRecoveredProviderEvent`, and two properties of them:
one event for each provider event, and the payload that reading an event's payload returns. The keys of
both join texts by colons and escape none.
-/

namespace Webhookery.Capture

open Go Store Relational Provider App

/-- One capture with everything it had read before its transaction began. -/
inductive Call where
  | live (env : Env) (input : CaptureInboundInput)
  | recovered (env : Env) (now : Time) (source : Source) (input : RecoveredCapture)

namespace Call

variable (crypto : Crypto)

/-- The rows of a call, for the adapter version it read. -/
def writes (versionID : String) : Call → CaptureWrites
  | .live env input => captureWrites env input versionID
  | .recovered env now source input => recoveredWrites crypto env input source now versionID

/-- The event a call writes when its key is free. -/
def event : Call → Event
  | .live env input => captureEventRow env input
  | .recovered env now source input => recoveredEventRow crypto env input source now

/-- A call that committed. A live call was prepared from a request. -/
inductive Commits : Call → DB → DB → Prop
  | live {env : Env} {input : CaptureInboundInput} {result : CaptureInboundResult} {db db' : DB}
      (requested : Requested crypto input) (commits : captureInbound env input db = .ok (result, db')) :
      Commits (.live env input) db db'
  | recovered {env : Env} {now : Time} {source : Source} {input : RecoveredCapture}
      {eventID : String} {db db' : DB}
      (commits : captureRecovered crypto env input source now db = .ok (eventID, db')) :
      Commits (.recovered env now source input) db db'

end Call

/-- The states reached from `db₀` by calls that meet a condition on the state before them. -/
def ReachedBy (crypto : Crypto) (Condition : Call → DB → Prop) (db₀ db : DB) : Prop :=
  Relation.ReflTransGen (fun db db' ↦ ∃ call, Condition call db ∧ Call.Commits crypto call db db') db₀ db

variable {crypto : Crypto} {Condition : Call → DB → Prop} {db₀ db db' : DB} {call : Call}

/-- An invariant that every call keeps under its condition holds in every state reached. -/
theorem ReachedBy.invariant {Inv : DB → Prop} (h₀ : Inv db₀)
    (hstep : ∀ call db db', Inv db → Condition call db → call.Commits crypto db db' → Inv db')
    (h : ReachedBy crypto Condition db₀ db) : Inv db := by
  induction h with
  | refl => exact h₀
  | tail _ hcall ih =>
    obtain ⟨call, hcondition, hcommits⟩ := hcall
    exact hstep call _ _ ih hcondition hcommits

theorem Call.event_writes (versionID : String) : (call.writes crypto versionID).event = call.event crypto := by
  cases call <;> rfl

theorem Call.Commits.committed (h : call.Commits crypto db db') :
    ∃ versionID eventID status, (call.writes crypto versionID).Committed eventID status db db' := by
  cases h with
  | live _ commits => exact ⟨_, _, _, (captureInbound_committed commits).1⟩
  | recovered commits =>
    obtain ⟨status, hwrites⟩ := captureRecovered_committed commits
    exact ⟨_, _, status, hwrites⟩

/-- What a call does to the events. -/
theorem Call.Commits.events_cases (h : call.Commits crypto db db') :
    (db.events.byIndex ((call.event crypto).tenantID, (call.event crypto).dedupeKey) = none ∧
        db'.events.rows = db.events.rows ++ [call.event crypto]) ∨
      db'.events = db.events := by
  obtain ⟨_, _, _, hwrites⟩ := h.committed
  cases hwrites.resolves with
  | new _ _ free events =>
    rw [Call.event_writes] at free events
    exact .inl ⟨free, events⟩
  | duplicate _ _ _ _ events => exact .inr events

/-! ## One event for each provider event -/

/-- No two events of a source have the same provider event id. -/
def ProviderEventsUnique (db : DB) : Prop :=
  ∀ e ∈ db.events, ∀ e' ∈ db.events, e.tenantID = e'.tenantID → e.sourceID = e'.sourceID →
    e.providerID = e'.providerID → e.providerID ≠ "" → e = e'

/-- Every event that has the provider event id of the call has the call's dedupe key as well. -/
def SameKey (crypto : Crypto) (call : Call) (db : DB) : Prop :=
  ∀ e ∈ db.events, e.tenantID = (call.event crypto).tenantID →
    e.sourceID = (call.event crypto).sourceID → e.providerID = (call.event crypto).providerID →
    e.providerID ≠ "" → e.dedupeKey = (call.event crypto).dedupeKey

theorem ProviderEventsUnique.step (h : ProviderEventsUnique db) (hkey : SameKey crypto call db)
    (hcommits : call.Commits crypto db db') : ProviderEventsUnique db' := by
  rcases hcommits.events_cases with ⟨hfree, hrows⟩ | hsame
  · -- an event with the call's provider event id would have the call's key, which was free
    have hnew : ∀ e ∈ db.events, e.tenantID = (call.event crypto).tenantID →
        e.sourceID = (call.event crypto).sourceID →
        e.providerID = (call.event crypto).providerID → e.providerID = "" := by
      intro e he htenant hsource hprovider
      by_contra hne
      have hdedupe := hkey e he htenant hsource hprovider hne
      exact Table.byIndex_eq_none_iff.mp hfree e he (congrArg some (Prod.ext htenant hdedupe))
    intro e he e' he' htenant hsource hprovider hne
    rw [Table.mem_def, hrows, List.mem_append, List.mem_singleton] at he he'
    rcases he with he | rfl
    · rcases he' with he' | rfl
      · exact h e he e' he' htenant hsource hprovider hne
      · exact absurd (hnew e he htenant hsource hprovider) hne
    · rcases he' with he' | rfl
      · exact absurd (hprovider.trans (hnew e' he' htenant.symm hsource.symm hprovider.symm)) hne
      · rfl
  · rw [ProviderEventsUnique, hsame]
    exact h

/-- In every state reached by calls whose key is that of the events with their provider event id,
there is at most one event for each provider event. -/
theorem provider_events_unique (h₀ : db₀.events.rows = [])
    (h : ReachedBy crypto (SameKey crypto) db₀ db) : ProviderEventsUnique db := by
  refine h.invariant (fun e he ↦ ?_) fun call db db' hunique hkey hcommits ↦ hunique.step hkey hcommits
  exact absurd he (Table.not_mem_of_rows_eq_nil h₀)

/-! ### A provider event recovered and then delivered -/

def payEnv (token : String) : Env := ⟨0, fun _ _ ↦ token, false, fun _ _ _ ↦ none⟩

def payRow : Source := newSourceRow (payEnv "0") "t" ⟨"payments", "stripe", "", "key"⟩

/-- The state after `CreateSource`. -/
def payDB : DB :=
  match createSource (payEnv "0") "t" ⟨"payments", "stripe", "", "key"⟩ DB.empty with
  | .ok (_, db) => db
  | .error _ => DB.empty

def payBody : Bytes := bytesOf "\x7b\"id\":\"evt_1\"\x7d"

/-- The provider's object, as reconciliation read it from the provider's API. -/
def payRecovered : RecoveredCapture where
  connection := ⟨"pc_1", "t", "stripe", .active, [("source_id", "src_0")]⟩
  objectID := "evt_1"
  eventType := "charge.succeeded"
  rawBody := payBody
  requestHeaders := []
  routeRecovered := false

/-- The same object as the provider delivers it, signed at time zero. -/
def payRequest (crypto : Crypto) : IngestRequest where
  rawBody := payBody
  headers := [⟨"Stripe-Signature", "t=0,v1=" ++
    Verifier.signHMACSHA256Hex crypto (bytesOf "key") (bytesOf "0." ++ payBody)⟩]
  contentType := "application/json"
  remoteIP := "192.0.2.1"

/-- The object recovered twice, the second time a second later. -/
def payTwice : Except StoreError (DB × DB) := do
  let (_, db₁) ← captureRecovered checksum (payEnv "1") payRecovered payRow 0 DB.empty
  let (_, db₂) ← captureRecovered checksum (payEnv "2") payRecovered payRow second db₁
  return (db₁, db₂)

theorem reachedBy_of_payTwice (h : payTwice = .ok (db₁, db₂))
    (hfirst : Condition (.recovered (payEnv "1") 0 payRow payRecovered) DB.empty)
    (hsecond : Condition (.recovered (payEnv "2") second payRow payRecovered) db₁) :
    ReachedBy checksum Condition DB.empty db₂ := by
  obtain ⟨⟨_, _⟩, hcommit, h⟩ := bind_eq_ok.mp h
  obtain ⟨⟨_, _⟩, hcommit', h⟩ := bind_eq_ok.mp h
  cases h
  exact (Relation.ReflTransGen.single ⟨_, hfirst, .recovered hcommit⟩).tail
    ⟨_, hsecond, .recovered hcommit'⟩

/-- An object recovered twice is one event. -/
theorem provider_events_unique_recovered :
    ∃ db, ReachedBy checksum (SameKey checksum) DB.empty db ∧ db.rawPayloads.rows.length = 2 ∧
      ProviderEventsUnique db := by
  obtain ⟨⟨_, db₂⟩, htwice, hkeys, hlength⟩ : ∃ dbs, payTwice = .ok dbs ∧
      (∀ e ∈ dbs.1.events, e.dedupeKey = recoveredDedupeKey payRecovered payRow) ∧ dbs.2.rawPayloads.rows.length = 2 := by
    decide +kernel
  have hreached : ReachedBy checksum (SameKey checksum) DB.empty db₂ :=
    reachedBy_of_payTwice htwice (fun e he ↦ absurd he (Table.not_mem_empty e))
      (fun e he _ _ _ _ ↦ hkeys e he)
  exact ⟨db₂, hreached, hlength, provider_events_unique rfl hreached⟩

/-- A provider event that is recovered first and then delivered with a valid signature is stored as
two events. -/
theorem recovered_then_delivered_twice :
    ∃ eventID db₁ result db₂,
      findRecoverySource payRecovered.connection payDB = .ok payRow ∧
      captureRecovered Crypto.standard (payEnv "1") payRecovered payRow 0 payDB = .ok (eventID, db₁) ∧
      ingest Crypto.standard 0 ⟨0, 0⟩ (payEnv "2") (payRequest Crypto.standard) "t" "src_0" db₁ =
        some (.ok (result, db₂)) ∧
      result.verifyReason = Verifier.reasonOK ∧
      db₂.events.rows.map (fun e ↦ (e.tenantID, e.sourceID, e.providerID)) =
        [("t", "src_0", "evt_1"), ("t", "src_0", "evt_1")] := by
  simp only [exists_and_left]
  refine ⟨by decide +kernel, Prod.exists'.mp ?_⟩
  simp only [Prod.mk.eta]
  decide +kernel

/-! ## The payload of an event -/

/-- `GetRawPayload` may return this row: `ORDER BY created_at LIMIT 1` returns any row with the
least time, and a deleted one is an error. -/
def GetsRawPayload (db : DB) (tenantID eventID : String) (p : RawPayload) : Prop :=
  p ∈ db.rawPayloads ∧ p.tenantID = tenantID ∧ p.eventID = some eventID ∧
    (∀ p' ∈ db.rawPayloads, p'.tenantID = tenantID → p'.eventID = some eventID →
      p.createdAt ≤ p'.createdAt) ∧
    p.storageStatus ≠ .deleted

/-- Reading the payload of an event returns the payload the event was captured with. -/
def PayloadsAgree (crypto : Crypto) (db : DB) : Prop :=
  ∀ e ∈ db.events, ∀ p, GetsRawPayload db e.tenantID e.id p →
    p.id = e.rawPayloadID ∧ hashSHA256 crypto p.body = e.rawPayloadHash

/-- The clock of a duplicate is later than that of the event it duplicates. -/
def LaterClock (crypto : Crypto) (call : Call) (db : DB) : Prop :=
  ∀ e ∈ db.events, e.tenantID = (call.event crypto).tenantID →
    e.dedupeKey = (call.event crypto).dedupeKey → e.receivedAt < (call.event crypto).receivedAt

/-- The payload a call writes is the one its event names. -/
structure OwnPayload (crypto : Crypto) (w : CaptureWrites) : Prop where
  id : w.raw.id = w.event.rawPayloadID
  tenantID : w.raw.tenantID = w.event.tenantID
  createdAt : w.raw.createdAt = w.event.receivedAt
  hash : hashSHA256 crypto w.raw.body = w.event.rawPayloadHash

theorem Call.Commits.ownPayload (h : call.Commits crypto db db') (versionID : String) :
    OwnPayload crypto (call.writes crypto versionID) := by
  cases h with
  | live requested =>
    obtain ⟨_, _, _, _, _, hinput⟩ := requested
    obtain ⟨_, _, -, -, rfl⟩ := captureInput_eq_some hinput
    exact ⟨rfl, rfl, rfl, rfl⟩
  | recovered => exact ⟨rfl, rfl, rfl, rfl⟩

/-- An event's own payload comes first, and later ones came later. -/
structure PayloadOrder (crypto : Crypto) (db : DB) : Prop where
  own : ∀ e ∈ db.events, ∃ p ∈ db.rawPayloads, p.tenantID = e.tenantID ∧ p.eventID = some e.id ∧
    p.createdAt = e.receivedAt
  later : ∀ e ∈ db.events, ∀ p ∈ db.rawPayloads, p.eventID = some e.id →
    (p.id = e.rawPayloadID ∧ hashSHA256 crypto p.body = e.rawPayloadHash) ∨ e.receivedAt < p.createdAt
  linked : ∀ p ∈ db.rawPayloads, ∀ id, p.eventID = some id → ∃ e ∈ db.events, e.id = id

theorem PayloadOrder.agree (h : PayloadOrder crypto db) : PayloadsAgree crypto db := by
  rintro e he p ⟨hp, _, heventID, hfirst, -⟩
  obtain ⟨own, hown, howntenant, hownevent, howntime⟩ := h.own e he
  rcases h.later e he p hp heventID with hagrees | hlater
  · exact hagrees
  · have hle := hfirst own hown howntenant hownevent
    rw [howntime] at hle
    exact absurd hlater (Int.not_lt.mpr hle)

theorem PayloadOrder.new (h : PayloadOrder crypto db) (hown : OwnPayload crypto w)
    (hevents : db'.events.rows = db.events.rows ++ [w.event])
    (hraw : db'.rawPayloads.rows =
      db.rawPayloads.rows ++ [{ w.raw with eventID := some w.event.id }]) :
    PayloadOrder crypto db' := by
  have hmemEvents : ∀ e, e ∈ db'.events ↔ e ∈ db.events ∨ e = w.event := by
    simp [Table.mem_def, hevents]
  have hmemRaw : ∀ p, p ∈ db'.rawPayloads ↔
      p ∈ db.rawPayloads ∨ p = { w.raw with eventID := some w.event.id } := by
    simp [Table.mem_def, hraw]
  -- the identifier of the new event is not that of an older one
  have hfresh : ∀ e ∈ db.events, e.id ≠ w.event.id := by
    intro e he hid
    have hnodup := db'.events.key_nodup
    rw [hevents, List.map_append, List.nodup_append] at hnodup
    exact hnodup.2.2 e.id (List.mem_map_of_mem he) w.event.id (by simp) hid
  refine ⟨?_, ?_, ?_⟩
  · intro e he
    rcases (hmemEvents e).mp he with he | rfl
    · obtain ⟨p, hp, hrest⟩ := h.own e he
      exact ⟨p, (hmemRaw p).mpr (.inl hp), hrest⟩
    · exact ⟨_, (hmemRaw _).mpr (.inr rfl), hown.tenantID, rfl, hown.createdAt⟩
  · intro e he p hp heventID
    rcases (hmemEvents e).mp he with he | rfl
    · rcases (hmemRaw p).mp hp with hp | rfl
      · exact h.later e he p hp heventID
      · exact absurd (Option.some.inj heventID).symm (hfresh e he)
    · rcases (hmemRaw p).mp hp with hp | rfl
      · obtain ⟨e', he', hid⟩ := h.linked p hp _ heventID
        exact absurd hid (hfresh e' he')
      · exact .inl ⟨hown.id, hown.hash⟩
  · intro p hp id heventID
    rcases (hmemRaw p).mp hp with hp | rfl
    · obtain ⟨e, he, hid⟩ := h.linked p hp id heventID
      exact ⟨e, (hmemEvents e).mpr (.inl he), hid⟩
    · exact ⟨w.event, (hmemEvents _).mpr (.inr rfl), Option.some.inj heventID⟩

theorem PayloadOrder.duplicate {w : CaptureWrites} {existing : Event} (h : PayloadOrder crypto db)
    (hexisting : existing ∈ db.events) (hlater : existing.receivedAt < w.raw.createdAt)
    (hevents : db'.events = db.events)
    (hraw : db'.rawPayloads.rows =
      db.rawPayloads.rows ++ [{ w.raw with eventID := some existing.id }]) :
    PayloadOrder crypto db' := by
  have hmemRaw : ∀ p, p ∈ db'.rawPayloads ↔
      p ∈ db.rawPayloads ∨ p = { w.raw with eventID := some existing.id } := by
    simp [Table.mem_def, hraw]
  refine ⟨?_, ?_, ?_⟩
  · intro e he
    obtain ⟨p, hp, hrest⟩ := h.own e (hevents ▸ he)
    exact ⟨p, (hmemRaw p).mpr (.inl hp), hrest⟩
  · intro e he p hp heventID
    rw [hevents] at he
    rcases (hmemRaw p).mp hp with hp | rfl
    · exact h.later e he p hp heventID
    · obtain rfl := Table.eq_of_key_eq he hexisting (Option.some.inj heventID).symm
      exact .inr hlater
  · intro p hp id heventID
    rw [hevents]
    rcases (hmemRaw p).mp hp with hp | rfl
    · exact h.linked p hp id heventID
    · exact ⟨existing, hexisting, Option.some.inj heventID⟩

theorem PayloadOrder.step (h : PayloadOrder crypto db) (hclock : LaterClock crypto call db)
    (hcommits : call.Commits crypto db db') : PayloadOrder crypto db' := by
  obtain ⟨versionID, _, _, hwrites⟩ := hcommits.committed
  have hown := hcommits.ownPayload versionID
  have hraw := hwrites.rawPayloads
  cases hwrites.resolves with
  | new _ id _ events =>
    rw [id] at hraw
    exact h.new hown events hraw
  | duplicate existing _ id taken events =>
    obtain ⟨hexisting, hindex⟩ := Table.byIndex_eq_some_iff.mp taken
    obtain ⟨htenant, hdedupe⟩ := Prod.ext_iff.mp (Option.some.inj hindex)
    rw [Call.event_writes] at htenant hdedupe
    have hlater := hclock existing hexisting htenant hdedupe
    rw [← Call.event_writes versionID, ← hown.createdAt] at hlater
    rw [id] at hraw
    exact h.duplicate hexisting hlater events hraw

/-- In every state reached by calls whose clock is later than that of the event they duplicate,
reading the payload of an event returns the payload the event names, with the hash it names. -/
theorem raw_payloads_agree (h₀ : NoCaptures db₀) (h : ReachedBy crypto (LaterClock crypto) db₀ db) :
    PayloadsAgree crypto db := by
  have hempty : PayloadOrder crypto db₀ := by
    refine ⟨fun e he ↦ ?_, fun e he ↦ ?_, fun p hp ↦ ?_⟩
    · exact absurd he (Table.not_mem_of_rows_eq_nil h₀.events)
    · exact absurd he (Table.not_mem_of_rows_eq_nil h₀.events)
    · exact absurd hp (Table.not_mem_of_rows_eq_nil h₀.rawPayloads)
  exact (h.invariant hempty fun call db db' horder hclock hcommits ↦ horder.step hclock hcommits).agree

/-- An object recovered again a second later. -/
theorem raw_payloads_agree_recovered :
    ∃ db, ReachedBy checksum (LaterClock checksum) DB.empty db ∧ db.rawPayloads.rows.length = 2 ∧
      PayloadsAgree checksum db := by
  obtain ⟨⟨_, db₂⟩, htwice, hearlier, hlength⟩ : ∃ dbs, payTwice = .ok dbs ∧
      (∀ e ∈ dbs.1.events, e.receivedAt < timestamptz second) ∧ dbs.2.rawPayloads.rows.length = 2 := by decide +kernel
  have hreached : ReachedBy checksum (LaterClock checksum) DB.empty db₂ :=
    reachedBy_of_payTwice htwice (fun e he ↦ absurd he (Table.not_mem_empty e))
      (fun e he _ _ ↦ hearlier e he)
  exact ⟨db₂, hreached, hlength, raw_payloads_agree noCaptures_empty hreached⟩

/-- The body of a request with the event id of another one. -/
def otherRequest : IngestRequest :=
  { hubRequest Crypto.standard false with rawBody := bytesOf "\x7b\"id\":\"e1\",\"n\":2\x7d" }

/-- Two requests with one event id. The one with the later clock commits first and becomes the
event; reading the payload of the event returns the body of the other one. -/
theorem earlier_clock_replaces_payload :
    ∃ first db₁ result db₂,
      ingest Crypto.standard 0 ⟨second, second⟩ (hubEnv "1") (hubRequest Crypto.standard false) "t"
        "src_0" hubDB = some (.ok (first, db₁)) ∧
      ingest Crypto.standard 0 ⟨0, 0⟩ (hubEnv "2") otherRequest "t" "src_0" db₁ =
        some (.ok (result, db₂)) ∧
      ∃ e ∈ db₂.events, ∃ p, GetsRawPayload db₂ e.tenantID e.id p ∧ p.id ≠ e.rawPayloadID ∧
        hashSHA256 Crypto.standard p.body ≠ e.rawPayloadHash := by
  simp only [exists_and_left, GetsRawPayload, and_assoc]
  set_option synthInstance.maxSize 512 in
  decide +kernel

/-! ## Keys -/

/-- Captures of one event, with their ids and the hashes of their bodies. -/
def SameEvent (s s' : Source) (id id' rawHash rawHash' : String) : Prop :=
  s.id = s'.id ∧ (id ≠ "" ∧ id = id' ∨ id = "" ∧ id' = "" ∧ rawHash = rawHash')

/-- The names that stand before the id in a key end at their first colon. -/
def Plain (provider sourceID : String) : Prop := ':' ∉ provider.toList ∧ ':' ∉ sourceID.toList

theorem toList_dedupeKey (source : Source) (providerID rawHash : String) :
    (dedupeKey source providerID rawHash).toList = source.provider.toList ++ ':' :: (source.tenantID.toList ++
      ':' :: (source.id.toList ++ ':' :: (if providerID ≠ "" then providerID else rawHash).toList)) := by
  simp [dedupeKey]

theorem toList_recoveredDedupeKey (input : RecoveredCapture) (source : Source) :
    (recoveredDedupeKey input source).toList = "reconcile".toList ++ ':' :: (input.connection.provider.toList ++
      ':' :: (source.id.toList ++ ':' :: input.objectID.toList)) := by
  simp [recoveredDedupeKey]

/-- The id of an event is told from the hash that stands in for a missing one. -/
theorem ids_of_eq {id id' : String} (hid : hasPrefix id "sha256:" = false)
    (hid' : hasPrefix id' "sha256:" = false)
    (h : (if id ≠ "" then id else hashSHA256 crypto body) = if id' ≠ "" then id' else hashSHA256 crypto body') :
    id ≠ "" ∧ id = id' ∨ id = "" ∧ id' = "" ∧ hashSHA256 crypto body = hashSHA256 crypto body' := by
  have hhash (body : Bytes) : hasPrefix (hashSHA256 crypto body) "sha256:" = true := by
    simp [hasPrefix, hashSHA256]
  split at h <;> split at h
  case isTrue.isTrue hne _ => exact .inl ⟨hne, h⟩
  case isTrue.isFalse =>
    rw [h, hhash] at hid
    cases hid
  case isFalse.isTrue =>
    rw [← h, hhash] at hid'
    cases hid'
  case isFalse.isFalse hempty hempty' => exact .inr ⟨not_not.mp hempty, not_not.mp hempty', h⟩

/-- Under plain names, captures of one tenant share a key only when they are of one event: two live ones
whose ids are no hashes, or two recovered ones with an id, but never one of each. -/
theorem same_event_of_key_eq :
    (∀ (s s' : Source) (id id' : String) (body body' : Bytes), Plain s.provider s.id → Plain s'.provider s'.id →
      hasPrefix id "sha256:" = false → hasPrefix id' "sha256:" = false → s.tenantID = s'.tenantID →
      dedupeKey s id (hashSHA256 crypto body) = dedupeKey s' id' (hashSHA256 crypto body') →
      SameEvent s s' id id' (hashSHA256 crypto body) (hashSHA256 crypto body')) ∧
    (∀ (input input' : RecoveredCapture) (s s' : Source), Plain input.connection.provider s.id →
      Plain input'.connection.provider s'.id → input.objectID ≠ "" →
      recoveredDedupeKey input s = recoveredDedupeKey input' s' →
      SameEvent s s' input.objectID input'.objectID (hashSHA256 crypto input.rawBody)
        (hashSHA256 crypto input'.rawBody)) ∧
    ∀ (s s' : Source) (id rawHash : String) (input : RecoveredCapture), Plain s.provider s.id →
      s.provider ≠ "reconcile" → dedupeKey s id rawHash ≠ recoveredDedupeKey input s' := by
  refine ⟨?_, ?_, ?_⟩
  · rintro s _ _ _ _ _ ⟨hprovider, hsource⟩ ⟨hprovider', hsource'⟩ hid hid' htenant hkey
    have hlist := congrArg String.toList hkey
    rw [toList_dedupeKey, toList_dedupeKey] at hlist
    obtain ⟨-, hrest⟩ := append_sep_inj hprovider hprovider' hlist
    rw [htenant, List.append_cancel_left_eq, List.cons_inj_right] at hrest
    obtain ⟨hsources, hlast⟩ := append_sep_inj hsource hsource' hrest
    exact ⟨String.toList_inj.mp hsources, ids_of_eq hid hid' (String.toList_inj.mp hlast)⟩
  · rintro _ _ s _ ⟨hprovider, hsource⟩ ⟨hprovider', hsource'⟩ hobject hkey
    have hlist := congrArg String.toList hkey
    rw [toList_recoveredDedupeKey, toList_recoveredDedupeKey, List.append_cancel_left_eq,
      List.cons_inj_right] at hlist
    obtain ⟨-, hrest⟩ := append_sep_inj hprovider hprovider' hlist
    obtain ⟨hsources, hobjects⟩ := append_sep_inj hsource hsource' hrest
    exact ⟨String.toList_inj.mp hsources, .inl ⟨hobject, String.toList_inj.mp hobjects⟩⟩
  · intro s s' id rawHash input hplain hne hkey
    have hlist := congrArg String.toList hkey
    rw [toList_dedupeKey, toList_recoveredDedupeKey] at hlist
    exact hne (String.toList_inj.mp (append_sep_inj hplain.1 (by decide) hlist).1)

theorem pay_event_known : SameEvent payRow payRow "evt_1" "evt_1" (hashSHA256 checksum []) (hashSHA256 checksum [0]) :=
  same_event_of_key_eq.1 payRow payRow "evt_1" "evt_1" [] [0] (by unfold Plain; decide) (by unfold Plain; decide)
    (by decide) (by decide) rfl rfl

/-- A source whose provider spells the start of a key of another source. -/
def spelledRow : Source := newSourceRow (payEnv "1") "t" ⟨"orders", "stripe:t:src_0", "stripe", "key"⟩

/-- Requests to two sources share a key, and so do a request without an id and one whose id is the hash of its body. -/
theorem keys_collide :
    CreateSourceRequest.accepted ⟨"orders", spelledRow.provider, "stripe", "key"⟩ = true ∧
      dedupeKey payRow "t:src_1:evt_1" "" = dedupeKey spelledRow "evt_1" "" ∧ payRow.id ≠ spelledRow.id ∧
      dedupeKey payRow "" (hashSHA256 Crypto.standard []) =
        dedupeKey payRow (hashSHA256 Crypto.standard []) (hashSHA256 Crypto.standard [0]) := by
  decide +kernel

end Webhookery.Capture
