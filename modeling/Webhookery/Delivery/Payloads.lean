import Webhookery.Machine.Deliveries
import Webhookery.Delivery.RoutedOnce

/-!
# The payload of a delivery

A delivery is created together with its payload, which is hashed when it is materialized and copied
with its hash when it is cloned. Workers send the stored bytes and record the hash of what they sent,
and retention deletes the bytes but not the hash. Whatever happens in between, every request of a
delivery carries the bytes of its payload and every attempt has its hash.
-/

namespace Webhookery.Delivery

open Go Store App Relational Concurrency Provider Machine

variable {l : Op} {q q' : Phase} {env : Env} {db db' : DB} {crypto : Crypto} {p : DeliveryPayload}

/-! ## What moves do to payloads, requests and attempts -/

/-- The row of a payload, whose body may have been deleted. -/
def Kept (p p' : DeliveryPayload) : Prop := p' = p ∨ p' = p.withoutBody

theorem Kept.trans (h : Kept p₁ p₂) (h' : Kept p₂ p₃) : Kept p₁ p₃ := by
  rcases h with rfl | rfl
  · exact h'
  · rcases h' with rfl | rfl <;> exact .inr rfl

theorem Kept.fields (h : Kept p p') :
    p'.id = p.id ∧ p'.deliveryID = p.deliveryID ∧ p'.tenantID = p.tenantID ∧ p'.sha256 = p.sha256 := by
  rcases h with rfl | rfl <;> exact ⟨rfl, rfl, rfl, rfl⟩

/-- A snapshot creates a delivery with its payload; all other moves keep both. -/
inductive PayloadsStep (l : Op) (env : Env) (db db' : DB) : Prop
  | created (codec : PayloadCodec) (req : DeliverySnapshotRequest) (ref : PayloadRef)
      (p : DeliveryPayload) (hashes : l.crypto = some codec.crypto)
      (payload : NewPayload codec env req.tenantID (env.mustID "del" 0) ref db.deliveryPayloads.rows p)
      (payloads : db'.deliveryPayloads.rows = db.deliveryPayloads.rows ++ [p])
      (deliveries : db'.deliveries.rows =
        db.deliveries.rows ++ [(deliveryRow codec.crypto env req).withPayload ref]) :
      PayloadsStep l env db db'
  | kept (f : DeliveryPayload → DeliveryPayload) (g : Delivery → Delivery)
      (payloads : db'.deliveryPayloads.rows = db.deliveryPayloads.rows.map f)
      (kept : ∀ p, Kept p (f p)) (deliveries : db'.deliveries.rows = db.deliveries.rows.map g)
      (same : ∀ d, SameDelivery d (g d)) : PayloadsStep l env db db'

theorem payloads_of_dispatch (h : Dispatch l q env db q' db') :
    ∃ f, db'.deliveryPayloads.rows = db.deliveryPayloads.rows.map f ∧ ∀ p, Kept p (f p) := by
  have hkeep (h : db'.deliveryPayloads = db.deliveryPayloads) :
      ∃ f, db'.deliveryPayloads.rows = db.deliveryPayloads.rows.map f ∧ ∀ p, Kept p (f p) :=
    ⟨id, by rw [h, List.map_id], fun _ ↦ .inl rfl⟩
  cases h with
  | claim _ _ _ _ commits =>
    obtain ⟨_, -, h⟩ := bind_eq_ok.mp commits
    cases h
    exact hkeep rfl
  | send | unsent => exact hkeep rfl
  | record _ _ _ _ _ _ commits =>
    obtain ⟨_, _, _, -, -, rfl⟩ := recordDeliveryAttempt_eq_ok commits
    exact hkeep rfl
  | retain _ commits =>
    cases commits
    refine ⟨_, rfl, fun p ↦ ?_⟩
    split
    · exact .inr rfl
    · exact .inl rfl
  | retry _ _ commits | cancel _ _ commits =>
    rw [(updateDelivery_eq_ok commits).1]
    exact ⟨id, (List.map_id _).symm, fun _ ↦ .inl rfl⟩
  | release _ _ _ _ _ commits =>
    cases commits
    exact hkeep rfl

theorem payloadsStep_of_act (h : Act l q env db q' db') : PayloadsStep l env db db' := by
  cases deliveryMove_of_act h with
  | dispatch dispatch =>
    obtain ⟨f, hpayloads, hkept⟩ := payloads_of_dispatch dispatch
    obtain ⟨g, hdeliveries, hsame⟩ := snapshots_of_dispatch dispatch
    exact .kept f g hpayloads hkept hdeliveries fun d ↦ (hsame d).same
  | snapshot taken hashes => exact .created _ _ _ _ hashes taken.payload taken.payloads taken.deliveries
  | other same =>
    exact .kept id id (by rw [same.deliveryPayloads, List.map_id]) (fun _ ↦ .inl rfl)
      (by rw [same.deliveries, List.map_id]) .refl

/-- Only delivery workers send requests and record attempts, for what they have claimed. -/
theorem records_of_act (h : Act l q env db q' db') :
    (∀ s ∈ db'.sent, s ∈ db.sent ∨
        ∃ item ∈ q.deliveryItems, s.deliveryID = item.id ∧ s.body = item.body) ∧
      ∀ a ∈ db'.attempts, a ∈ db.attempts ∨ ∃ crypto, l.crypto = some crypto ∧
        ∃ item ∈ q.deliveryItems, a.deliveryID = item.id ∧
          a.requestSHA256 = hashSHA256 crypto item.body := by
  have hkeep {P : SentRequest → Prop} {Q : DeliveryAttempt → Prop} :
      (∀ s ∈ db.sent, s ∈ db.sent ∨ P s) ∧ ∀ a ∈ db.attempts, a ∈ db.attempts ∨ Q a :=
    ⟨fun _ hs ↦ .inl hs, fun _ ha ↦ .inl ha⟩
  cases deliveryMove_of_act h with
  | dispatch dispatch =>
    cases dispatch
    case send item _ _ =>
      refine ⟨fun s hs ↦ ?_, fun _ ha ↦ .inl ha⟩
      rcases List.mem_append.mp hs with hold | hnew
      · exact .inl hold
      · rw [List.mem_singleton.mp hnew]
        exact .inr ⟨item, List.mem_cons_self, rfl, rfl⟩
    case record crypto item _ _ hashes _ commits =>
      obtain ⟨_, _, _, hrows, -, rfl⟩ := recordDeliveryAttempt_eq_ok commits
      refine ⟨fun _ hs ↦ .inl hs, fun a ha ↦ ?_⟩
      rcases (Table.mem_of_rows_append hrows).mp ha with hold | rfl
      · exact .inl hold
      · exact .inr ⟨crypto, hashes, item, List.mem_cons_self, rfl, rfl⟩
    case' claim commits =>
      obtain ⟨_, -, h⟩ := bind_eq_ok.mp commits
      cases h
    case' retain commits | release commits => cases commits
    case' retry commits | cancel commits => rw [(updateDelivery_eq_ok commits).1]
    all_goals exact hkeep
  | snapshot taken =>
    rw [taken.frame]
    exact hkeep
  | other same =>
    rw [same.sent, same.attempts]
    exact hkeep

/-! ## Deliveries and their payloads -/

/-- Every delivery points at its payload and every payload belongs to a delivery that points at it; the
payloads that were not deleted have the right hash. -/
structure PayloadsSound (crypto : Crypto) (db : DB) : Prop where
  payload : ∀ d ∈ db.deliveries, ∃ p ∈ db.deliveryPayloads,
    p.id = d.deliveryPayloadID ∧ p.deliveryID = d.id ∧ p.tenantID = d.tenantID
  delivery : ∀ p ∈ db.deliveryPayloads, ∃ d ∈ db.deliveries,
    d.id = p.deliveryID ∧ d.deliveryPayloadID = p.id
  named : ∀ p ∈ db.deliveryPayloads, p.id ≠ ""
  hash : ∀ p ∈ db.deliveryPayloads, p.storageStatus ≠ .deleted → p.sha256 = hashSHA256 crypto p.body
  sent : ∀ s ∈ db.sent, ∃ d ∈ db.deliveries, d.id = s.deliveryID
  attempts : ∀ a ∈ db.attempts, ∃ d ∈ db.deliveries, d.id = a.deliveryID

/-- The operation hashes with the given functions. -/
def HashesWith (crypto : Crypto) (e : Transition Op Env DB) : Prop :=
  ∀ c, e.label.crypto = some c → c = crypto

theorem PayloadsSound.unique (h : PayloadsSound crypto db)
    (hp : p ∈ db.deliveryPayloads) (hp' : p' ∈ db.deliveryPayloads)
    (hdelivery : p'.deliveryID = p.deliveryID) : p' = p := by
  obtain ⟨d, hd, hid, hpayload⟩ := h.delivery p hp
  obtain ⟨d', hd', hid', hpayload'⟩ := h.delivery p' hp'
  obtain rfl : d' = d := Table.eq_of_key_eq hd' hd (hid'.trans (hdelivery.trans hid.symm))
  exact Table.eq_of_key_eq hp' hp (hpayload'.symm.trans hpayload)

theorem PayloadsStep.exists_payload (h : PayloadsStep l env db db') (hp : p ∈ db.deliveryPayloads) :
    ∃ p' ∈ db'.deliveryPayloads, Kept p p' := by
  cases h with
  | created _ _ _ _ _ _ payloads =>
    refine ⟨p, ?_, .inl rfl⟩
    exact (Table.mem_append payloads).mpr (.inl hp)
  | kept f g payloads kept =>
    refine ⟨f p, ?_, kept p⟩
    exact (Table.mem_map payloads).mpr ⟨_, hp, rfl⟩

/-- A new payload has the right hash, also when it was copied. -/
theorem PayloadsStep.of_mem (h : PayloadsStep l env db db') (hp' : p' ∈ db'.deliveryPayloads) :
    (∃ p ∈ db.deliveryPayloads, Kept p p') ∨ ∃ codec req ref, l.crypto = some codec.crypto ∧
      NewPayload codec env req.tenantID (env.mustID "del" 0) ref db.deliveryPayloads.rows p' ∧
      (deliveryRow codec.crypto env req).withPayload ref ∈ db'.deliveries := by
  cases h with
  | created codec req ref _ hashes payload payloads deliveries =>
    rcases (Table.mem_of_rows_append payloads).mp hp' with hold | rfl
    · exact .inl ⟨p', hold, .inl rfl⟩
    · exact .inr ⟨codec, req, ref, hashes, payload, (Table.mem_of_rows_append deliveries).mpr (.inr rfl)⟩
  | kept f _ payloads kept =>
    obtain ⟨p, hp, rfl⟩ := (Table.mem_map payloads).mp hp'
    exact .inl ⟨p, hp, kept p⟩

theorem PayloadsSound.hash_of_new (h : PayloadsSound crypto db) (hcrypto : codec.crypto = crypto)
    (hnew : NewPayload codec env tenantID deliveryID ref db.deliveryPayloads.rows p) :
    p.sha256 = hashSHA256 crypto p.body := by
  rcases hnew.hash with hhash | ⟨p₀, hp₀, hstored, hsha, hbody⟩
  · rw [hhash, hcrypto]
  · rw [hsha, hbody]
    exact h.hash p₀ hp₀ hstored

theorem payloadsSound_of_act (hI : PayloadsSound crypto db) (hP : ItemsExist db q)
    (hcrypto : HashesWith crypto ⟨l, .act env, db, db'⟩) (hact : Act l q env db q' db') :
    PayloadsSound crypto db' := by
  have hstep := payloadsStep_of_act hact
  -- deliveries that requests and attempts refer to go on
  have hexists {id : String} (h : ∃ d ∈ db.deliveries, d.id = id) : ∃ d ∈ db'.deliveries, d.id = id := by
    obtain ⟨_, hd, hid⟩ := h
    obtain ⟨d', hd', hsame⟩ := exists_delivery_of_act hact hd
    exact ⟨d', hd', hsame.id.trans hid⟩
  have hpayload {d d' : Delivery} (hd : d ∈ db.deliveries) (hsame : SameDelivery d d') :
      ∃ p ∈ db'.deliveryPayloads,
        p.id = d'.deliveryPayloadID ∧ p.deliveryID = d'.id ∧ p.tenantID = d'.tenantID := by
    obtain ⟨_, hp, hid, hdelivery, htenant⟩ := hI.payload d hd
    obtain ⟨p', hp', hkept⟩ := hstep.exists_payload hp
    obtain ⟨hid', hdelivery', htenant', -⟩ := hkept.fields
    refine ⟨p', hp', ?_, ?_, ?_⟩
    · rw [hid', hid, hsame.deliveryPayloadID]
    · rw [hdelivery', hdelivery, hsame.id]
    · rw [htenant', htenant, hsame.tenantID]
  have hheld {item : DeliveryItem} (hitem : item ∈ q.deliveryItems) : ∃ d ∈ db.deliveries, d.id = item.id := by
    obtain ⟨d, hd, hof⟩ := hP item hitem
    exact ⟨d, hd, hof.id⟩
  constructor
  case payload =>
    intro d' hd'
    cases hstep with
    | created _ _ _ p _ payload payloads deliveries =>
      rcases (Table.mem_of_rows_append deliveries).mp hd' with hold | rfl
      · exact hpayload hold (.refl d')
      · exact ⟨p, by simp [Table.mem_def, payloads], payload.ref.symm, payload.deliveryID,
          payload.tenantID⟩
    | kept _ _ _ _ deliveries same =>
      obtain ⟨d, hd, rfl⟩ := (Table.mem_map deliveries).mp hd'
      exact hpayload hd (same d)
  case delivery =>
    intro p' hp'
    rcases hstep.of_mem hp' with ⟨p, hp, hkept⟩ | ⟨_, _, _, -, payload, hd⟩
    · obtain ⟨_, hd, hid, hpoints⟩ := hI.delivery p hp
      obtain ⟨d', hd', hsame⟩ := exists_delivery_of_act hact hd
      obtain ⟨hid', hdelivery', -⟩ := hkept.fields
      refine ⟨d', hd', ?_, ?_⟩
      · rw [hsame.id, hid, hdelivery']
      · rw [hsame.deliveryPayloadID, hpoints, hid']
    · exact ⟨_, hd, payload.deliveryID.symm, payload.ref⟩
  case named =>
    intro p' hp'
    rcases hstep.of_mem hp' with ⟨p, hp, hkept⟩ | ⟨_, _, _, -, payload, -⟩
    · rw [hkept.fields.1]
      exact hI.named p hp
    · rw [payload.id]
      exact env.mustID_ne_empty "dpl" 0
  case hash =>
    intro p' hp' hstored
    rcases hstep.of_mem hp' with ⟨p, hp, rfl | rfl⟩ | ⟨_, _, _, hashes, payload, -⟩
    · exact hI.hash _ hp hstored
    · exact absurd rfl hstored
    · exact hI.hash_of_new (hcrypto _ hashes) payload
  case sent =>
    intro s hs
    apply hexists
    rcases (records_of_act hact).1 s hs with hold | ⟨_, hitem, hid, -⟩
    · exact hI.sent s hold
    · exact hid ▸ hheld hitem
  case attempts =>
    intro a ha
    apply hexists
    rcases (records_of_act hact).2 a ha with hold | ⟨_, -, _, hitem, hid, -⟩
    · exact hI.attempts a hold
    · exact hid ▸ hheld hitem

theorem modular_payloads : System.Modular machine (HashesWith crypto) (PayloadsSound crypto)
    (fun db _ q ↦ ItemsExist db q) :=
  modular_machine (fun _ _ _ ↦ .idle) (fun _ _ _ _ hsilent hP ↦ hP.silent hsilent)
    (fun _ _ _ _ _ _ hI hP hcrypto hact ↦ ⟨payloadsSound_of_act hI hP hcrypto hact, hP.act hact⟩)
    (fun _ _ _ _ _ _ _ _ _ hact _ _ hP ↦ hP.keep hact)

/-! ## One payload from its creation on -/

/-- The payload is as it was created, except that its body may have been deleted, and everything that
was sent and recorded for its delivery agrees with it. -/
structure Frozen (p : DeliveryPayload) (db : DB) : Prop where
  row : ∃ p' ∈ db.deliveryPayloads, Kept p p'
  sent : ∀ s ∈ db.sent, s.deliveryID = p.deliveryID → s.body = p.body
  attempts : ∀ a ∈ db.attempts, a.deliveryID = p.deliveryID → a.requestSHA256 = p.sha256

/-- Workers hold the body of the payload for its delivery. -/
def HoldsBody (p : DeliveryPayload) (q : Phase) : Prop :=
  ∀ item ∈ q.deliveryItems, item.id = p.deliveryID → item.body = p.body

/-- A worker that claims the delivery reads the body of the payload. -/
theorem Frozen.body_of_claim (h : Frozen p db) (hI : PayloadsSound crypto db)
    (hd : d ∈ db.deliveries) (hid : d.id = p.deliveryID) (hbody : deliveryBody d db = .ok body) :
    body = p.body := by
  obtain ⟨p₁, hp₁, hpoints, hdelivery, _⟩ := hI.payload d hd
  obtain ⟨p', hp', hkept⟩ := h.row
  obtain rfl : p₁ = p' := by
    apply hI.unique hp' hp₁
    rw [hdelivery, hid, hkept.fields.2.1]
  rw [deliveryBody, if_neg (hpoints ▸ hI.named p₁ hp₁)] at hbody
  split at hbody
  case h_1 => cases hbody
  case h_2 p₂ hfind =>
    have hmatch := List.find?_some hfind
    simp only [Bool.and_eq_true, beq_iff_eq] at hmatch
    obtain rfl : p₂ = p₁ :=
      Table.eq_of_key_eq (List.mem_of_find?_eq_some hfind) hp₁ (hmatch.2.trans hpoints.symm)
    rcases hkept with rfl | rfl
    · split at hbody
      · cases hbody
      · exact (Except.ok.inj hbody).symm
    · cases hbody

theorem holdsBody_move (h : Frozen p db) (hI : PayloadsSound crypto db) (hP : HoldsBody p q)
    (hact : Act l q env db q' db') : HoldsBody p q' := by
  intro item hitem hid
  rcases deliveryItems_of_act hact hitem with hold | ⟨d, hd, hof, hbody⟩
  · exact hP item hold hid
  · exact h.body_of_claim hI hd (hof.id.trans hid) hbody

theorem Frozen.step (h : Frozen p db) (hhash : p.sha256 = hashSHA256 crypto p.body) (hP : HoldsBody p q)
    (hcrypto : HashesWith crypto ⟨l, .act env, db, db'⟩) (hact : Act l q env db q' db') :
    Frozen p db' where
  row := by
    obtain ⟨_, hp₁, hkept₁⟩ := h.row
    obtain ⟨p₂, hp₂, hkept₂⟩ := (payloadsStep_of_act hact).exists_payload hp₁
    exact ⟨p₂, hp₂, hkept₁.trans hkept₂⟩
  sent s hs hid := by
    rcases (records_of_act hact).1 s hs with hold | ⟨item, hitem, hsame, hbody⟩
    · exact h.sent s hold hid
    · rw [hbody, hP item hitem (hsame.symm.trans hid)]
  attempts a ha hid := by
    rcases (records_of_act hact).2 a ha with hold | ⟨c, hc, item, hitem, hsame, hsha⟩
    · exact h.attempts a hold hid
    · rw [hsha, hP item hitem (hsame.symm.trans hid), hcrypto c hc, hhash]

theorem HoldsBody.silent (h : HoldsBody p q) (hsilent : Silent q q₀) : HoldsBody p q₀ := by
  cases hsilent <;> exact h

theorem modular_frozen (hhash : p.sha256 = hashSHA256 crypto p.body) :
    System.Modular machine (HashesWith crypto) (fun db ↦ PayloadsSound crypto db ∧ Frozen p db)
      (fun db _ q ↦ ItemsExist db q ∧ HoldsBody p q) :=
  modular_machine
    (fun _ _ _ ↦ ⟨.idle, nofun⟩)
    (fun _ _ _ _ hsilent hP ↦ ⟨hP.1.silent hsilent, hP.2.silent hsilent⟩)
    (fun _ _ _ _ _ _ hI hP hcrypto hact ↦
      ⟨⟨payloadsSound_of_act hI.1 hP.1 hcrypto hact, hI.2.step hhash hP.2 hcrypto hact⟩,
        hP.1.act hact, holdsBody_move hI.2 hI.1 hP.2 hact⟩)
    (fun _ _ _ _ _ _ _ _ _ hact _ _ hP ↦ ⟨hP.1.keep hact, hP.2⟩)

/-! ## Runs -/

/-- A store without deliveries. -/
structure NoDeliveries (db : DB) : Prop where
  deliveries : db.deliveries.rows = []
  deliveryPayloads : db.deliveryPayloads.rows = []
  attempts : db.attempts.rows = []
  sent : db.sent = []

theorem NoDeliveries.sound (h : NoDeliveries db) : PayloadsSound crypto db where
  payload _ hd := absurd hd (Table.not_mem_of_rows_eq_nil h.deliveries)
  delivery _ hp := absurd hp (Table.not_mem_of_rows_eq_nil h.deliveryPayloads)
  named _ hp := absurd hp (Table.not_mem_of_rows_eq_nil h.deliveryPayloads)
  hash _ hp := absurd hp (Table.not_mem_of_rows_eq_nil h.deliveryPayloads)
  sent _ hs := absurd (h.sent ▸ hs) List.not_mem_nil
  attempts _ ha := absurd ha (Table.not_mem_of_rows_eq_nil h.attempts)

/-- The step that creates a delivery creates its payload, and nothing was sent or recorded before. -/
theorem frozen_of_creation (hmeets : System.Meets (PayloadsSound crypto) (fun db _ q ↦ ItemsExist db q) c)
    (hcrypto : HashesWith crypto e) (hstep : machine.Step c e c') (hd : d ∈ c'.state.deliveries)
    (hfresh : ∀ d₀ ∈ c.state.deliveries, d₀.id ≠ d.id) :
    ∃ p ∈ c'.state.deliveryPayloads, p.id = d.deliveryPayloadID ∧ p.deliveryID = d.id ∧
      p.storageStatus = .stored ∧ p.sha256 = hashSHA256 crypto p.body ∧
      System.Meets (fun db ↦ PayloadsSound crypto db ∧ Frozen p db)
        (fun db _ q ↦ ItemsExist db q ∧ HoldsBody p q) c' := by
  have hmeets' := modular_payloads.step hmeets hcrypto hstep
  rcases exists_act_of_step hstep with heq | ⟨l, _, q, _, _, hthread, hleads, rfl, hact⟩
  · exact absurd rfl (hfresh d (heq ▸ hd))
  cases payloadsStep_of_act hact with
  | kept _ _ _ _ deliveries same =>
    obtain ⟨d₀, hd₀, rfl⟩ := (Table.mem_map deliveries).mp hd
    exact absurd (same d₀).id.symm (hfresh d₀ hd₀)
  | created _ _ _ p hashes payload payloads deliveries =>
    rcases (Table.mem_append deliveries).mp hd with hold | hnew
    · exact absurd rfl (hfresh d hold)
    obtain rfl := List.mem_singleton.mp hnew
    have hp : p ∈ c'.state.deliveryPayloads := by simp [Table.mem_def, payloads]
    have habsent {id : String} (hexists : ∃ d₀ ∈ c.state.deliveries, d₀.id = id) :
        id ≠ p.deliveryID := by
      obtain ⟨d₀, hd₀, rfl⟩ := hexists
      rw [payload.deliveryID]
      exact hfresh d₀ hd₀
    have hunheld {q : Phase} (hq : ItemsExist c.state q) {item : DeliveryItem}
        (hitem : item ∈ q.deliveryItems) : item.id ≠ p.deliveryID := by
      obtain ⟨d₀, hd₀, hof⟩ := hq item hitem
      exact habsent ⟨d₀, hd₀, hof.id⟩
    have hitems : ItemsExist c.state q :=
      leads_invariant (fun _ _ hsilent hP ↦ hP.silent hsilent) hleads (hmeets.threads _ hthread)
    have hfrozen : Frozen p c'.state := by
      refine ⟨⟨p, hp, .inl rfl⟩, fun s hs hid ↦ ?_, fun a ha hid ↦ ?_⟩
      · rcases (records_of_act hact).1 s hs with hold | ⟨_, hitem, hsame, -⟩
        · exact absurd hid (habsent (hmeets.state.sent s hold))
        · exact absurd (hsame.symm.trans hid) (hunheld hitems hitem)
      · rcases (records_of_act hact).2 a ha with hold | ⟨_, -, _, hitem, hsame, -⟩
        · exact absurd hid (habsent (hmeets.state.attempts a hold))
        · exact absurd (hsame.symm.trans hid) (hunheld hitems hitem)
    -- no worker holds the delivery yet
    have hholds : System.Meets (fun db ↦ Frozen p db) (fun _ _ q ↦ HoldsBody p q) c' := by
      refine hmeets.establish hstep hfrozen ?_ ?_ ?_
      · rintro l _ rfl _ hitem
        cases hitem
      · rintro _ _ _ _ hq₁ ⟨q₂, hleads₂, hact₂⟩ _ hitem hid
        have hq₂ : ItemsExist c.state q₂ :=
          leads_invariant (fun _ _ hsilent hP ↦ hP.silent hsilent) hleads₂ hq₁
        rcases deliveryItems_of_act hact₂ hitem with hold | ⟨d₀, hd₀, hof, -⟩
        · exact absurd hid (hunheld hq₂ hold)
        · exact absurd hid (habsent ⟨d₀, hd₀, hof.id⟩)
      · intro l₁ q₁ hq₁ item hitem hid
        exact absurd hid (hunheld hq₁ hitem)
    exact ⟨p, hp, payload.ref.symm, payload.deliveryID, payload.stored,
      hmeets.state.hash_of_new (hcrypto _ hashes) payload, ⟨hmeets'.state, hholds.state⟩,
      fun t ht ↦ ⟨hmeets'.threads t ht, hholds.threads t ht⟩⟩

/-- In a run in which all operations use the same hash: a delivery is created with a payload that is
hashed. From then on this is its only payload, with the same hash and either the same body or none;
every request for the delivery carries that body and every attempt has that hash. -/
theorem payload_fixed_at_creation {c : Threads Op DB (Work Unit)}
    {before after : List (Transition Op Env DB)} {e : Transition Op Env DB} {d : Delivery}
    (hrun : App.system.Run NoDeliveries (before ++ e :: after) c)
    (hcrypto : ∀ e₁ ∈ before ++ e :: after, HashesWith crypto e₁) (hd : d ∈ e.after.deliveries)
    (hfresh : ∀ d₀ ∈ e.before.deliveries, d₀.id ≠ d.id) :
    ∃ p ∈ e.after.deliveryPayloads, p.id = d.deliveryPayloadID ∧ p.deliveryID = d.id ∧
      p.storageStatus = .stored ∧ p.sha256 = hashSHA256 crypto p.body ∧
      (∃ p' ∈ c.state.deliveryPayloads, Kept p p' ∧
        ∀ p₁ ∈ c.state.deliveryPayloads, p₁.deliveryID = d.id → p₁ = p') ∧
      (∀ s ∈ c.state.sent, s.deliveryID = d.id → s.body = p.body) ∧
      ∀ a ∈ c.state.attempts, a.deliveryID = d.id → a.requestSHA256 = p.sha256 := by
  obtain ⟨_, hmachine, -⟩ := Machine.simulation.run hrun
  obtain ⟨_, _, hrun₁, hstep, hpath⟩ := hmachine.split
  have hmeets := modular_payloads.run (fun _ h ↦ h.sound) hrun₁
    fun e₁ he₁ ↦ hcrypto e₁ (List.mem_append_left _ he₁)
  rw [hstep.after_eq] at hd ⊢
  rw [hstep.before_eq] at hfresh
  obtain ⟨p, hp, hid, hdelivery, hstored, hhash, hmeets₂⟩ :=
    frozen_of_creation hmeets (hcrypto e (by simp)) hstep hd hfresh
  obtain ⟨hsound, hfrozen⟩ := ((modular_frozen hhash).path hpath
    (fun e₁ he₁ ↦ hcrypto e₁ (by simp [he₁])) hmeets₂).state
  obtain ⟨p', hp', hkept⟩ := hfrozen.row
  refine ⟨p, hp, hid, hdelivery, hstored, hhash, ⟨p', hp', hkept, fun p₁ hp₁ hid₁ ↦ ?_⟩, ?_, ?_⟩
  · exact hsound.unique hp' hp₁ (by rw [hid₁, hkept.fields.2.1, hdelivery])
  · rw [← hdelivery]
    exact hfrozen.sent
  · rw [← hdelivery]
    exact hfrozen.attempts

/-! ### Deliveries of the shop -/

/-- The shop with a row for its event and a key for its endpoint. -/
def shopSigning : DB :=
  { shopQueued with
    endpointSecrets :=
      ((Table.empty.insert? ⟨"sec_1", "t", "ep_1", 1, bytesOf "key", .active⟩).getD .empty) }

/-- The endpoint takes every request. -/
def shopClient (_ : DeliveryItem) : ClientReply := ⟨true, ⟨200, [], "", false⟩⟩

/-- The event is routed, its deliveries are sent, and retention deletes their payloads. -/
def deliveredScript : List (Command Op Env) :=
  [.start (shopWorker "worker"), .go 0 20 (shopFrom 10),
    .start (.runDeliveries checksum shopClient "worker" 10), .go 1 20 (shopFrom 30),
    .start (.payloadRetention ⟨"t", "", minute⟩), .go 2 1 (fun _ ↦ shopEnv 60)]

def deliveredRun : AppRun := runScript deliveredScript shopSigning

theorem noDeliveries_shopSigning : NoDeliveries shopSigning where
  deliveries := by decide +kernel
  deliveryPayloads := by decide +kernel
  attempts := by decide +kernel
  sent := by decide +kernel

theorem hashesWith_deliveredRun : ∀ e ∈ deliveredRun.1, HashesWith checksum e := by
  apply Program.label_of_execute (P := fun l : Op ↦ ∀ c, l.crypto = some c → c = checksum)
  intro l hl c hc
  simp only [deliveredScript, List.mem_cons, Command.start.injEq, reduceCtorEq, false_or, List.not_mem_nil,
    or_false] at hl
  rcases hl with rfl | rfl | rfl
  · exact (Option.some.inj hc).symm
  · exact (Option.some.inj hc).symm
  · cases hc

/-- Both deliveries were sent and recorded, and no payload has a body any more. -/
theorem shop_payload_fixed :
    deliveredRun.2.state.sent.length = 2 ∧ deliveredRun.2.state.attempts.rows.length = 2 ∧
      deliveredRun.2.state.deliveryPayloads.rows.map (·.storageStatus) = [.deleted, .deleted] ∧
      ∃ e ∈ deliveredRun.1, ∃ d ∈ e.after.deliveries, (∀ d₀ ∈ e.before.deliveries, d₀.id ≠ d.id) ∧
        ∃ p ∈ e.after.deliveryPayloads, p.sha256 = hashSHA256 checksum p.body ∧
          (∀ s ∈ deliveredRun.2.state.sent, s.deliveryID = d.id → s.body = p.body) ∧
          ∀ a ∈ deliveredRun.2.state.attempts, a.deliveryID = d.id → a.requestSHA256 = p.sha256 := by
  have hcreated : ∃ e ∈ deliveredRun.1, ∃ d ∈ e.after.deliveries.rows,
      ∀ d₀ ∈ e.before.deliveries.rows, d₀.id ≠ d.id := by decide +kernel
  obtain ⟨e, he, d, hd, hfresh⟩ := hcreated
  refine ⟨by decide +kernel, by decide +kernel, by decide +kernel, e, he, d, hd, hfresh, ?_⟩
  have hrun : App.system.Run NoDeliveries deliveredRun.1 deliveredRun.2 :=
    run_runScript noDeliveries_shopSigning
  have hcrypto := hashesWith_deliveredRun
  obtain ⟨_, _, hevents⟩ := List.append_of_mem he
  rw [hevents] at hrun hcrypto
  obtain ⟨p, hp, -, -, -, hhash, -, hsent, hattempts⟩ :=
    payload_fixed_at_creation hrun hcrypto hd hfresh
  exact ⟨p, hp, hhash, hsent, hattempts⟩

end Webhookery.Delivery
