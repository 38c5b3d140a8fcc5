import Webhookery.Delivery.DeadLetters

/-!
# Claims of due deliveries

A claim selects due deliveries and then loads the material of each: the endpoint with its signing secret
and its client certificate, and the body of the payload. It fails as a whole when the material of one of
them is missing, for instance because retention has deleted the body of a payload. So it returns the
deliveries that it can return if and only if nothing is missing.
-/

namespace Webhookery.Delivery

open Go Store App Relational Concurrency Machine

variable {env : Env} {db db' : DB} {d : Delivery} {workerID : String} {limit : Nat}

/-! ## Material -/

/-- The secret box returns the plaintext. -/
def Decrypts (env : Env) (tenantID purpose : String) (ciphertext : Bytes) : Prop :=
  ∃ secret, env.decryptSecret tenantID purpose ciphertext = some secret

/-- An endpoint of the delivery that can sign its requests with its newest active secret, and with its certificate
if it needs one. -/
structure CanSign (env : Env) (db : DB) (d : Delivery) (e : Endpoint) : Prop where
  endpoint : e ∈ db.endpoints
  tenantID : e.tenantID = d.tenantID
  id : e.id = d.endpointID
  secret : ∃ s, signingKey db e = some s ∧ Decrypts env d.tenantID "endpoint_signing_secret" s.encryptedSecret
  certificate : e.mtlsEnabled = true → e.encryptedMTLSCert ≠ [] ∧ e.encryptedMTLSKey ≠ [] ∧
    Decrypts env e.tenantID "endpoint_mtls_client_cert" e.encryptedMTLSCert ∧
    Decrypts env e.tenantID "endpoint_mtls_client_key" e.encryptedMTLSKey

/-- The body of the delivery: that of its payload unless it was deleted, or one that is made from the
event where the delivery has no payload. -/
def HasBody (db : DB) (d : Delivery) : Prop :=
  if d.deliveryPayloadID = "" then ∃ e ∈ db.events, e.tenantID = d.tenantID ∧ e.id = d.eventID
  else ∃ p ∈ db.deliveryPayloads, p.tenantID = d.tenantID ∧ p.id = d.deliveryPayloadID ∧
    p.storageStatus ≠ .deleted

/-- Everything that a request for the delivery is made from is in the store and can be decrypted. -/
def Available (env : Env) (db : DB) (d : Delivery) : Prop := (∃ e, CanSign env db d e) ∧ HasBody db d

section Lookups

variable {α ι : Type} {key : α → String} {index : α → Option ι}

/-- A lookup by tenant and identifier. -/
theorem exists_find?_row (t : Table α key index) (tenant : α → String) (tenantID id : String) (Q : α → Prop) :
    (∃ r, t.find? (fun r ↦ tenant r == tenantID && key r == id) = some r ∧ Q r) ↔
      ∃ r ∈ t, (tenant r = tenantID ∧ key r = id) ∧ Q r := by
  have honly : ∀ x ∈ t, ∀ y ∈ t, (tenant x == tenantID && key x == id) = true →
      (tenant y == tenantID && key y == id) = true → x = y := by
    intro x hx y hy hpx hpy
    rw [Bool.and_eq_true, beq_iff_eq, beq_iff_eq] at hpx hpy
    exact Table.eq_of_key_eq hx hy (hpx.2.trans hpy.2.symm)
  simpa only [Bool.and_eq_true, beq_iff_eq] using Table.exists_find?_iff honly

end Lookups

theorem exists_decrypted_iff :
    (∃ secret, env.decrypted tenantID purpose ciphertext = .ok secret) ↔ Decrypts env tenantID purpose ciphertext := by
  unfold Env.decrypted Decrypts
  cases env.decryptSecret tenantID purpose ciphertext <;> simp

theorem exists_clientCertificate_iff :
    (∃ pair, clientCertificate env e = .ok pair) ↔
      (e.mtlsEnabled = true → e.encryptedMTLSCert ≠ [] ∧ e.encryptedMTLSKey ≠ [] ∧
        Decrypts env e.tenantID "endpoint_mtls_client_cert" e.encryptedMTLSCert ∧
        Decrypts env e.tenantID "endpoint_mtls_client_key" e.encryptedMTLSKey) := by
  unfold clientCertificate
  split
  case isTrue henabled =>
    rw [← and_assoc, ← not_or, ← exists_decrypted_iff, ← exists_decrypted_iff]
    split
    case isTrue hmissing => simp [henabled, hmissing]
    case isFalse hpresent => simp [henabled, hpresent, bind_eq_ok, pure, Except.pure]
  case isFalse hdisabled => simp [hdisabled]

theorem exists_deliveryBody_iff : (∃ body, deliveryBody d db = .ok body) ↔ HasBody db d := by
  unfold deliveryBody HasBody
  split
  case isTrue =>
    have hevent := exists_find?_row db.events Event.tenantID d.tenantID d.eventID fun _ ↦ True
    simp only [and_true] at hevent
    rw [← hevent]
    constructor
    · rintro ⟨_, hbody⟩
      obtain ⟨e, he, -⟩ := bind_eq_ok.mp hbody
      exact ⟨e, selectRow_eq_ok.mp he⟩
    · rintro ⟨e, he⟩
      exact ⟨_, bind_eq_ok.mpr ⟨e, selectRow_eq_ok.mpr he, rfl⟩⟩
  case isFalse =>
    have hpayload := exists_find?_row db.deliveryPayloads DeliveryPayload.tenantID d.tenantID d.deliveryPayloadID
      fun p ↦ p.storageStatus ≠ .deleted
    simp only [and_assoc] at hpayload
    rw [← hpayload]
    cases db.deliveryPayloads.find? fun p ↦ p.tenantID == d.tenantID && p.id == d.deliveryPayloadID with
    | none => simp
    | some p =>
      by_cases hdeleted : p.storageStatus = .deleted <;> simp [hdeleted]

/-- The material of a delivery can be loaded exactly when it is available. -/
theorem exists_populateDeliveryItem_iff :
    (∃ item, populateDeliveryItem env db d = .ok item) ↔ Available env db d := by
  constructor
  · rintro ⟨_, h⟩
    obtain ⟨e, he, h⟩ := bind_eq_ok.mp h
    obtain ⟨hmem, htenant, hid⟩ := selectRow_columns he
    dsimp only at h
    split at h
    case h_1 key hkey =>
      obtain ⟨body, hbody, h⟩ := bind_eq_ok.mp h
      obtain ⟨secret, hsecret, h⟩ := bind_eq_ok.mp h
      obtain ⟨pair, hpair, -⟩ := bind_eq_ok.mp h
      exact ⟨⟨e, hmem, htenant, hid, ⟨key, hkey, exists_decrypted_iff.mp ⟨secret, hsecret⟩⟩,
        exists_clientCertificate_iff.mp ⟨pair, hpair⟩⟩, exists_deliveryBody_iff.mp ⟨body, hbody⟩⟩
    case h_2 => cases h
  · rintro ⟨⟨e, hsign⟩, hbody⟩
    obtain ⟨e', he', rfl⟩ := (exists_find?_row db.endpoints Endpoint.tenantID d.tenantID d.endpointID
      (· = e)).mpr ⟨e, hsign.endpoint, ⟨hsign.tenantID, hsign.id⟩, rfl⟩
    obtain ⟨body, hbody⟩ := exists_deliveryBody_iff.mpr hbody
    obtain ⟨⟨_, _⟩, hpair⟩ := exists_clientCertificate_iff.mpr hsign.certificate
    obtain ⟨key, hkey, hdecrypts⟩ := hsign.secret
    obtain ⟨secret, hsecret⟩ := exists_decrypted_iff.mpr hdecrypts
    apply Exists.intro
    apply bind_eq_ok.mpr
    refine ⟨e', selectRow_eq_ok.mpr he', ?_⟩
    dsimp only
    rw [hkey]
    exact bind_eq_ok.mpr ⟨body, hbody, bind_eq_ok.mpr ⟨secret, hsecret, bind_eq_ok.mpr ⟨_, hpair, rfl⟩⟩⟩

/-! ## Claims -/

/-- The due deliveries that a claim selects, after it has released expired leases. -/
def selectedDeliveries (now : Time) (limit : Nat) (db : DB) : List Delivery :=
  claimedDeliveries db now limit (db.deliveries.rows.map (Delivery.released now))

/-- A claim commits and returns the selected deliveries whose material is available, exactly when that of
all selected deliveries is. -/
theorem claim_returns_iff (workerID : String) (limit : Nat) (env : Env) (db : DB) :
    (∃ items db', claimDueDeliveries workerID limit env db = .ok (items, db') ∧
      ∀ d ∈ selectedDeliveries env.now limit db, Available env db d →
        ∃ item ∈ items, item.id = d.id ∧ item.tenantID = d.tenantID) ↔
      ∀ d ∈ selectedDeliveries env.now limit db, Available env db d := by
  constructor
  · rintro ⟨_, _, h, -⟩ d hd
    obtain ⟨items', hpopulate, -⟩ := bind_eq_ok.mp h
    exact exists_populateDeliveryItem_iff.mp (exists_mapM_iff.mp ⟨items', hpopulate⟩ d hd)
  · intro havailable
    obtain ⟨items, hpopulate⟩ := exists_mapM_iff.mpr fun d hd ↦
      exists_populateDeliveryItem_iff.mpr (havailable d hd)
    refine ⟨items, _, bind_eq_ok.mpr ⟨items, hpopulate, rfl⟩, fun d hd _ ↦ ?_⟩
    obtain ⟨item, hitem, hof⟩ := exists_mem_of_mapM_eq_ok hpopulate hd
    obtain ⟨hid, htenant, -⟩ := populateDeliveryItem_eq_ok hof
    exact ⟨item, hitem, hid, htenant⟩

/-! ### A payload of the shop that retention deletes -/

/-- The second delivery of the event is created a minute after the first one. Retention then deletes what
is older than that. -/
def retainedRun : AppRun := runScript
  [.start (shopWorker "worker"), .go 0 6 (shopFrom 10),
    .go 0 20 (fun n ↦ { shopFrom 16 n with now := minute }),
    .start (.payloadRetention ⟨"t", "", second⟩), .go 1 1 (fun _ ↦ { shopEnv 50 with now := minute })] shopSigning

/-- The second delivery could be sent, but the first one has no body any more and the claim fails. -/
theorem gone_payload_blocks_claims :
    App.system.Run NoDeliveries retainedRun.1 retainedRun.2 ∧
      (∃ d ∈ selectedDeliveries minute 10 retainedRun.2.state,
        d.id = "del_17" ∧ Available { shopEnv 60 with now := minute } retainedRun.2.state d) ∧
      ∀ items db', claimDueDeliveries "worker" 10 { shopEnv 60 with now := minute } retainedRun.2.state ≠
        .ok (items, db') := by
  obtain ⟨d, hd, hid, item, hitem, -⟩ : ∃ d ∈ selectedDeliveries minute 10 retainedRun.2.state, d.id = "del_17" ∧
      ∃ item, populateDeliveryItem { shopEnv 60 with now := minute } retainedRun.2.state d = .ok item ∧
        item.signingKeyID = "sec_1" := by decide +kernel
  have hfails : (claimDueDeliveries "worker" 10 { shopEnv 60 with now := minute }
      retainedRun.2.state).isOk = false := by decide +kernel
  refine ⟨run_runScript noDeliveries_shopSigning,
    ⟨d, hd, hid, exists_populateDeliveryItem_iff.mp ⟨item, hitem⟩⟩, fun items db' h ↦ ?_⟩
  rw [h] at hfails
  cases hfails

end Webhookery.Delivery
