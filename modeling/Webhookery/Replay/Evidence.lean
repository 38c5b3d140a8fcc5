import Webhookery.Replay.Copies

/-!
# The evidence of a replay

The delivery of a replay, its payload, its item and its receipt are written by one transaction, and no
statement of the store removes one of them or changes what the item and the receipt record. So in every
state that is reached, whichever processes crashed, each delivery of a replay has one item and one
receipt, each item with a delivery and each receipt has one delivery, and the rows agree.
-/

namespace Webhookery.Replay

open Store App Relational Concurrency Machine Delivery

/-- What the item and the receipt of a replay record of a delivery and of its payload. -/
structure Evidence where
  (tenantID replayJobID eventID routeVersionID subscriptionVersionID retryPolicyID : String)
  (adapterVersionID normalizedEnvelopeID transformationVersionID deliveryPayloadID : String)
  deliveryPayloadSHA256 : String
  deriving DecidableEq

def evidenceOfItem (i : ReplayItem) : Evidence :=
  ⟨i.tenantID, i.replayJobID, i.eventID, i.routeVersionID, i.subscriptionVersionID, i.retryPolicyID,
    i.adapterVersionID, i.normalizedEnvelopeID, i.transformationVersionID, i.deliveryPayloadID,
    i.deliveryPayloadSHA256⟩

def evidenceOfReceipt (r : ReplayReceipt) : Evidence :=
  ⟨r.tenantID, r.replayJobID, r.eventID, r.routeVersionID, r.subscriptionVersionID, r.retryPolicyID,
    r.adapterVersionID, r.normalizedEnvelopeID, r.transformationVersionID, r.deliveryPayloadID,
    r.deliveryPayloadSHA256⟩

/-- What the rows of a delivery and of its payload say. -/
def evidenceOf (d : Delivery) (p : DeliveryPayload) : Evidence :=
  ⟨d.tenantID, d.replayJobID, d.eventID, d.routeVersionID, d.subscriptionVersionID, d.retryPolicyID,
    d.adapterVersionID, d.normalizedEnvelopeID, d.transformationVersionID, p.id, p.sha256⟩

/-- The payload of a delivery. -/
structure PayloadOf (d : Delivery) (p : DeliveryPayload) : Prop where
  tenantID : p.tenantID = d.tenantID
  deliveryID : p.deliveryID = d.id
  id : p.id = d.deliveryPayloadID
  transformationVersionID : p.transformationVersionID = d.transformationVersionID

/-- The evidence is that of the delivery and of its payload. -/
def Evidences (db : DB) (d : Delivery) (evidence : Evidence) : Prop :=
  ∃ p ∈ db.deliveryPayloads, PayloadOf d p ∧ evidence = evidenceOf d p

/-- The item of a delivery. -/
def ItemOf (db : DB) (d : Delivery) (i : ReplayItem) : Prop :=
  i.newDeliveryID = d.id ∧ Evidences db d (evidenceOfItem i)

/-- The receipt of a delivery. -/
def ReceiptOf (db : DB) (d : Delivery) (r : ReplayReceipt) : Prop :=
  Evidences db d (evidenceOfReceipt r)

def isReplayed (d : Delivery) : Bool := d.replayJobID != ""

def isDelivered (i : ReplayItem) : Bool := i.newDeliveryID != ""

/-- The items and the receipts, in the order in which they were written, are those of the deliveries of
replays. -/
structure Paired (db : DB) : Prop where
  items : List.Forall₂ (ItemOf db) (db.deliveries.rows.filter isReplayed)
    (db.replayItems.rows.filter isDelivered)
  receipts : List.Forall₂ (ReceiptOf db) (db.deliveries.rows.filter isReplayed) db.replayReceipts.rows

/-! ## Steps -/

section Steps

variable {codec : PayloadCodec} {env : Env} {req : DeliverySnapshotRequest} {ref : PayloadRef}
  {p : DeliveryPayload} {db db' : DB} {l : Op} {q q' : Phase}

theorem evidences_of_payloads (hpayloads : db'.deliveryPayloads.rows = db.deliveryPayloads.rows ++ rows)
    (h : Evidences db d evidence) : Evidences db' d evidence := by
  obtain ⟨p, hp, hpayload⟩ := h
  refine ⟨p, ?_, hpayload⟩
  exact (Table.mem_append hpayloads).mpr (.inl hp)

/-- A snapshot appends a delivery, and of a replay also its item and its receipt. -/
theorem paired_of_snapshot (h : SnapshotTaken codec env req db ref p db') (hpaired : Paired db) : Paired db' := by
  have hitems : List.Forall₂ (ItemOf db') (db.deliveries.rows.filter isReplayed)
      (db.replayItems.rows.filter isDelivered) :=
    hpaired.items.imp fun d i hitem ↦ ⟨hitem.1, evidences_of_payloads h.payloads hitem.2⟩
  have hreceipts : List.Forall₂ (ReceiptOf db') (db.deliveries.rows.filter isReplayed)
      db.replayReceipts.rows :=
    hpaired.receipts.imp fun d r hreceipt ↦ evidences_of_payloads h.payloads hreceipt
  have hp : p ∈ db'.deliveryPayloads := by
    exact (Table.mem_of_rows_append h.payloads).mpr (.inr rfl)
  have hevidence (evidence : Evidence)
      (heq : evidence = evidenceOf ((deliveryRow codec.crypto env req).withPayload ref) p) :
      Evidences db' ((deliveryRow codec.crypto env req).withPayload ref) evidence :=
    ⟨p, hp, ⟨h.payload.tenantID, h.payload.deliveryID, h.payload.ref.symm, h.version⟩, heq⟩
  have hid : ref.payloadID = p.id := h.payload.ref
  have hreplayed : isReplayed ((deliveryRow codec.crypto env req).withPayload ref) =
      (req.replayJobID != "") := rfl
  have hdelivered : isDelivered (replayItemRow env req (snapshotResult env ref p.sha256)) = true := by
    simpa [isDelivered, replayItemRow, snapshotResult] using env.mustID_ne_empty "del" 0
  by_cases hjob : req.replayJobID = ""
  case pos =>
    have hnone : [(deliveryRow codec.crypto env req).withPayload ref].filter isReplayed = [] := by
      simp [hreplayed, hjob]
    constructor
    · rwa [h.deliveries, h.items, if_pos hjob, List.append_nil, List.filter_append, hnone, List.append_nil]
    · rwa [h.deliveries, h.receipts, if_pos hjob, List.append_nil, List.filter_append, hnone,
        List.append_nil]
  case neg =>
    have hone : [(deliveryRow codec.crypto env req).withPayload ref].filter isReplayed =
        [(deliveryRow codec.crypto env req).withPayload ref] := by
      simp [hreplayed, hjob]
    constructor
    · rw [h.deliveries, h.items, if_neg hjob, List.filter_append, List.filter_append, hone,
        List.filter_cons_of_pos hdelivered]
      refine List.rel_append hitems (.cons ⟨rfl, hevidence _ ?_⟩ .nil)
      simp only [evidenceOfItem, evidenceOf, replayItemRow, snapshotResult, hid]
      rfl
    · rw [h.deliveries, h.receipts, if_neg hjob, List.filter_append, hone]
      refine List.rel_append hreceipts (.cons (hevidence _ ?_) .nil)
      simp only [evidenceOfReceipt, evidenceOf, replayReceiptRow, snapshotResult, hid]
      rfl

/-- A worker, an operator and retention keep what a delivery and its payload say. -/
theorem evidences_of_dispatch (hpayloads : db'.deliveryPayloads.rows = db.deliveryPayloads.rows.map f)
    (hkept : ∀ p, Kept p (f p)) (hsame : SameSnapshot d d') (h : Evidences db d evidence) :
    Evidences db' d' evidence := by
  obtain ⟨p, hp, hpayload, rfl⟩ := h
  refine ⟨f p, by rw [Table.mem_def, hpayloads]; exact List.mem_map_of_mem hp, ?_⟩
  have hfields : f p = { p with body := (f p).body, storageStatus := (f p).storageStatus } := by
    rcases hkept p with heq | heq <;> rw [heq]
    rfl
  rw [hsame, hfields]
  exact ⟨⟨hpayload.tenantID, hpayload.deliveryID, hpayload.id, hpayload.transformationVersionID⟩, rfl⟩

theorem paired_of_dispatch (hdispatch : Dispatch l q env db q' db') (h : Paired db) : Paired db' := by
  obtain ⟨_, hpayloads, hkept⟩ := payloads_of_dispatch hdispatch
  obtain ⟨g, hdeliveries, hsame⟩ := snapshots_of_dispatch hdispatch
  obtain ⟨-, hitems, hreceipts, -⟩ := frame_of_dispatch hdispatch
  have hreplayed : isReplayed ∘ g = isReplayed := by
    funext d
    rw [Function.comp_apply, hsame d]
    rfl
  have hrows : db'.deliveries.rows.filter isReplayed = (db.deliveries.rows.filter isReplayed).map g := by
    rw [hdeliveries, List.filter_map, hreplayed]
  refine ⟨?_, ?_⟩
  · rw [hrows, hitems, List.forall₂_map_left_iff]
    refine h.items.imp fun d i hitem ↦ ⟨?_, evidences_of_dispatch hpayloads hkept (hsame d) hitem.2⟩
    rw [hsame d]
    exact hitem.1
  · rw [hrows, hreceipts, List.forall₂_map_left_iff]
    exact h.receipts.imp fun d r hreceipt ↦ evidences_of_dispatch hpayloads hkept (hsame d) hreceipt

theorem paired_of_act (hact : Act l q env db q' db') (h : Paired db) : Paired db' := by
  cases deliveryMove_of_act hact with
  | dispatch dispatch => exact paired_of_dispatch dispatch h
  | snapshot taken => exact paired_of_snapshot taken h
  | other same _ noted =>
    obtain ⟨items, hrows, hnothing⟩ := noted.items
    have hevidences {d : Delivery} {evidence : Evidence} (h : Evidences db d evidence) :
        Evidences db' d evidence :=
      evidences_of_payloads (by rw [same.deliveryPayloads, List.append_nil]) h
    have hnone : items.filter isDelivered = [] := by
      refine List.filter_eq_nil_iff.mpr fun i hi ↦ ?_
      simp [isDelivered, (hnothing i hi).2]
    refine ⟨?_, ?_⟩
    · rw [same.deliveries, hrows, List.filter_append, hnone, List.append_nil]
      exact h.items.imp fun d i hitem ↦ ⟨hitem.1, hevidences hitem.2⟩
    · rw [same.deliveries, noted.receipts]
      exact h.receipts.imp fun d r hreceipt ↦ hevidences hreceipt

end Steps

/-! ## Runs -/

/-- A store without deliveries of replays and without their evidence. -/
structure NoEvidence (db : DB) : Prop where
  deliveries : ∀ d ∈ db.deliveries, d.replayJobID = ""
  replayItems : db.replayItems.rows = []
  replayReceipts : db.replayReceipts.rows = []

theorem NoEvidence.paired (h : NoEvidence db) : Paired db := by
  have hnone : db.deliveries.rows.filter isReplayed = [] := by
    refine List.filter_eq_nil_iff.mpr fun d hd ↦ ?_
    simp [isReplayed, h.deliveries d hd]
  constructor
  · rw [hnone, h.replayItems]
    exact .nil
  · rw [hnone, h.replayReceipts]
    exact .nil

/-- A receipt names the payload, and a payload belongs to one delivery. -/
theorem id_eq_of_evidences (h : Evidences db d evidence) (h' : Evidences db d' evidence) : d.id = d'.id := by
  obtain ⟨p, hp, hpayload, rfl⟩ := h
  obtain ⟨p', hp', hpayload', heq⟩ := h'
  have hid : p.id = p'.id := congrArg Evidence.deliveryPayloadID heq
  rw [← hpayload.deliveryID, Table.eq_of_key_eq hp hp' hid, hpayload'.deliveryID]

/-- Deliveries of replays, items with a new delivery and receipts correspond one to one, and what the
item and the receipt record is what the rows of the delivery and of its payload say. -/
theorem evidence_corresponds {events : List (Transition Op Env DB)} {c : Threads Op DB (Work Unit)}
    (hrun : App.system.Run NoEvidence events c) :
    (∀ d ∈ c.state.deliveries, d.replayJobID ≠ "" →
      (∃! i, i ∈ c.state.replayItems ∧ i.newDeliveryID ≠ "" ∧ ItemOf c.state d i) ∧
        ∃! r, r ∈ c.state.replayReceipts ∧ ReceiptOf c.state d r) ∧
    (∀ i ∈ c.state.replayItems, i.newDeliveryID ≠ "" →
      ∃! d, d ∈ c.state.deliveries ∧ d.replayJobID ≠ "" ∧ ItemOf c.state d i) ∧
    ∀ r ∈ c.state.replayReceipts,
      ∃! d, d ∈ c.state.deliveries ∧ d.replayJobID ≠ "" ∧ ReceiptOf c.state d r := by
  have hpaired : Paired c.state :=
    invariant_of_acts (fun _ h ↦ h.paired) (fun _ _ _ _ _ _ h hact ↦ paired_of_act hact h) hrun
  obtain ⟨hitem, hdelivery⟩ := Table.existsUnique_of_forall₂ hpaired.items
    fun d _ d' _ i h h' ↦ h.1.symm.trans h'.1
  obtain ⟨hreceipt, hdelivery'⟩ := Table.existsUnique_of_forall₂ hpaired.receipts
    fun d _ d' _ r h h' ↦ id_eq_of_evidences h h'
  simp only [isReplayed, isDelivered, List.mem_filter, bne_iff_ne, and_assoc] at hitem hdelivery
  simp only [isReplayed, bne_iff_ne, and_assoc] at hreceipt hdelivery'
  exact ⟨fun d hd hjob ↦ ⟨hitem d hd hjob, hreceipt d hd hjob⟩, fun i hi hnew ↦ hdelivery i ⟨hi, hnew⟩,
    hdelivery'⟩

/-- The worker of an approved replay crashes between the snapshots of its two deliveries. -/
def halfReplayedRun : AppRun :=
  runScript
    (askedScript guardedReplay ++ [.start (.approveReplayJob "t" "rpl_1" "bob"), .go 1 1 (fun _ ↦ shopEnv 2),
      .start (shopWorker "worker"), .go 2 9 (shopFrom 10),
      .crash 2])
    shopConfigured

theorem half_replayed_evidence :
    ∃ d ∈ halfReplayedRun.2.state.deliveries, d.replayJobID = "rpl_1" ∧
      (∃! i, i ∈ halfReplayedRun.2.state.replayItems ∧ i.newDeliveryID ≠ "" ∧
        ItemOf halfReplayedRun.2.state d i) ∧
      ∃! r, r ∈ halfReplayedRun.2.state.replayReceipts ∧ ReceiptOf halfReplayedRun.2.state d r := by
  obtain ⟨d, hd, hjob⟩ : ∃ d ∈ halfReplayedRun.2.state.deliveries, d.replayJobID = "rpl_1" := by decide +kernel
  have hne : d.replayJobID ≠ "" := by rw [hjob]; decide
  have hempty : NoEvidence shopConfigured := ⟨by decide +kernel, by decide +kernel, by decide +kernel⟩
  exact ⟨d, hd, hjob, (evidence_corresponds (run_runScript hempty)).1 d hd hne⟩

end Webhookery.Replay
