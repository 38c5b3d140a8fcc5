import Webhookery.App.Plan
import Webhookery.Delivery.Payloads
import Webhookery.Replay.Approval

/-!
# What a replay adds and what it copies

A replay adds deliveries with their payloads and its own evidence, and changes no row but that of its
job. In original mode every new delivery is a copy of the one that it replays: the same event, endpoint,
versions and retry policy, and the bytes and the hash of its payload. The transformation version is that
of the payload, which in every state that the store reaches is that of the delivery.
-/

namespace Webhookery.Replay

open Go Store App Relational Concurrency Provider Machine Delivery

/-! ## Additions -/

/-- Rows were added to the tables of deliveries and replay evidence, and the row of one job was
updated. -/
structure Adds (tenantID jobID : String) (db db' : DB) : Prop where
  frame : OnlyDeliveries db db'
  deliveries : db.deliveries.rows <+: db'.deliveries.rows
  deliveryPayloads : db.deliveryPayloads.rows <+: db'.deliveryPayloads.rows
  replayItems : db.replayItems.rows <+: db'.replayItems.rows
  replayReceipts : db.replayReceipts.rows <+: db'.replayReceipts.rows
  replayJobs : ∃ f, db'.replayJobs.rows = db.replayJobs.rows.map f ∧
    (∀ j, f j = { j with state := (f j).state, processedItems := (f j).processedItems }) ∧
    ∀ j, ¬(j.tenantID = tenantID ∧ j.id = jobID) → f j = j

section Additions

variable {codec : PayloadCodec} {tenantID jobID : String} {db db₁ db₂ : DB}

theorem Adds.refl (db : DB) : Adds tenantID jobID db db where
  frame := rfl
  deliveries := List.prefix_rfl
  deliveryPayloads := List.prefix_rfl
  replayItems := List.prefix_rfl
  replayReceipts := List.prefix_rfl
  replayJobs := ⟨id, (List.map_id _).symm, fun _ ↦ rfl, fun _ _ ↦ rfl⟩

theorem Adds.trans (h : Adds tenantID jobID db db₁) (h' : Adds tenantID jobID db₁ db₂) :
    Adds tenantID jobID db db₂ where
  frame := by
    rw [OnlyDeliveries, h'.frame, h.frame]
  deliveries := h.deliveries.trans h'.deliveries
  deliveryPayloads := h.deliveryPayloads.trans h'.deliveryPayloads
  replayItems := h.replayItems.trans h'.replayItems
  replayReceipts := h.replayReceipts.trans h'.replayReceipts
  replayJobs := by
    obtain ⟨f, hf, hjob, hother⟩ := h.replayJobs
    obtain ⟨g, hg, hjob', hother'⟩ := h'.replayJobs
    refine ⟨g ∘ f, by rw [hg, hf, List.map_map], fun j ↦ ?_, fun j hj ↦ ?_⟩
    · exact (hjob' (f j)).trans (congrArg (fun j' : ReplayJob ↦
        { j' with state := (g (f j)).state, processedItems := (g (f j)).processedItems }) (hjob j))
    · rw [Function.comp_apply, hother j hj, hother' j hj]

theorem adds_createDeliverySnapshot {req : DeliverySnapshotRequest} {env : Env}
    {result : DeliverySnapshotResult}
    (h : createDeliverySnapshot codec req env db = .ok (result, db₁)) : Adds tenantID jobID db db₁ := by
  obtain ⟨_, _, htaken⟩ := createDeliverySnapshot_taken h
  have hjobs : db₁.replayJobs = db.replayJobs := by rw [htaken.frame]
  exact {
    frame := by rw [OnlyDeliveries, htaken.frame]
    deliveries := ⟨_, htaken.deliveries.symm⟩
    deliveryPayloads := ⟨_, htaken.payloads.symm⟩
    replayItems := ⟨_, htaken.items.symm⟩
    replayReceipts := ⟨_, htaken.receipts.symm⟩
    replayJobs := ⟨id, by rw [hjobs, List.map_id], fun _ ↦ rfl, fun _ _ ↦ rfl⟩ }

/-- An update of the row of the job. -/
theorem adds_updateReplayJobs (hp : ∀ j, p j = true → j.tenantID = tenantID ∧ j.id = jobID)
    (hf : ∀ j, f j = { j with state := (f j).state, processedItems := (f j).processedItems }) :
    Adds tenantID jobID db (updateReplayJobs p f hid db) :=
  { (Adds.refl db : Adds tenantID jobID db db) with
    frame := rfl
    replayJobs := by
      refine ⟨_, rfl, fun j ↦ ?_, fun j hj ↦ if_neg fun hguard ↦ hj (hp j hguard)⟩
      split
      · exact hf j
      · rfl }

end Additions

section Programs

variable {codec : PayloadCodec} {tenantID jobID : String} {opts : DeliveryFanoutOptions}

/-- Programs whose steps change the store as snapshots and the items of empty replays do. -/
theorem fanoutProperty_changes (hrefl : ∀ db, R db db)
    (hsnapshot : ∀ req env db result db', createDeliverySnapshot codec req env db = .ok (result, db') →
      R db db')
    (hnoop : ∀ tenantID jobID eventID mode errorText env db db',
      insertReplayNoopItem tenantID jobID eventID mode errorText env db = .ok ((), db') → R db db') :
    FanoutProperty codec fun _ p ↦ Program.Changes R p where
  pure _ := trivial
  bind hp hf := hp.bind hf
  query _ := changes_query _ hrefl
  clockNow := changes_clockNow hrefl
  snapshot req := changes_transaction hrefl fun env db result db' h ↦ hsnapshot req env db result db' h
  noop tenantID jobID eventID mode errorText :=
    changes_transaction hrefl fun env db _ db' h ↦ hnoop tenantID jobID eventID mode errorText env db db' h

/-- Whatever it ends with, the processing of a replay job only adds. -/
theorem adds_of_createReplayDeliveries (h : Program.Runs (createReplayDeliveries codec tenantID jobID) db r db') :
    Adds tenantID jobID db db' := by
  have hjob {p : ReplayState → Bool} (j : ReplayJob)
      (h : (j.tenantID == tenantID && j.id == jobID && p j.state) = true) :
      j.tenantID = tenantID ∧ j.id = jobID := by
    simp only [Bool.and_eq_true, beq_iff_eq] at h
    exact h.1
  have hstart : Program.Changes (Adds tenantID jobID)
      (transaction fun _ ↦ startReplayJob tenantID jobID) := by
    refine changes_transaction .refl fun env db started db' h ↦ ?_
    cases h
    exact adds_updateReplayJobs (fun j hguard ↦ hjob (p := (· == .scheduled)) j hguard) fun _ ↦ rfl
  have hcomplete (n : Nat) : Program.Changes (Adds tenantID jobID)
      (transaction fun _ ↦ completeReplayJob tenantID jobID n) := by
    refine changes_transaction .refl fun env db _ db' h ↦ ?_
    cases h
    exact adds_updateReplayJobs (fun j hguard ↦ hjob (p := (· != .canceled)) j hguard) fun _ ↦ rfl
  have hsteps : FanoutProperty codec fun _ p ↦ Program.Changes (Adds tenantID jobID) p := by
    refine fanoutProperty_changes .refl (fun _ _ _ _ _ ↦ adds_createDeliverySnapshot) fun _ _ _ _ _ _ _ _ hnoop ↦ ?_
    obtain ⟨-, _, ht, hdb⟩ := require_insertRow_eq_ok.mp hnoop
    cases hdb
    exact { Adds.refl _ with frame := rfl, replayItems := ⟨_, (Table.rows_insert? ht).symm⟩ }
  have hprogram : Program.Changes (Adds tenantID jobID)
      (createReplayDeliveries codec tenantID jobID) := by
    refine (changes_query _ .refl).bind fun work ↦ ?_
    split
    case h_1 | h_2 | h_4 | h_5 | h_6 => trivial
    case h_3 =>
      refine hstart.bind fun started ↦ .ite ?_ trivial
      refine (hsteps.replayEvent _ _ _).bind fun ofEvent ↦ ?_
      exact (hsteps.replayDelivery _).bind fun ofDelivery ↦ hcomplete _
  exact hprogram.interrupted .refl (fun _ _ _ ↦ .trans) h.interrupted

end Programs

/-! ## Transformation versions -/

/-- A delivery with a payload has the transformation version of the payload. -/
def VersionsAgree (db : DB) : Prop :=
  ∀ d ∈ db.deliveries, d.deliveryPayloadID ≠ "" → ∃ p ∈ db.deliveryPayloads,
    p.id = d.deliveryPayloadID ∧ p.transformationVersionID = d.transformationVersionID

section Versions

variable {codec : PayloadCodec} {req : DeliverySnapshotRequest} {env : Env} {ref : PayloadRef}
  {p : DeliveryPayload} {plan : List DeliverySnapshotRequest} {db db' : DB}

theorem versionsAgree_of_snapshot (h : SnapshotTaken codec env req db ref p db')
    (hagree : VersionsAgree db) : VersionsAgree db' := by
  intro d hd hne
  rw [Table.mem_def, h.deliveries] at hd
  simp only [Table.mem_def, h.payloads]
  rcases List.mem_append.mp hd with hold | hnew
  · obtain ⟨p₀, hp₀, hid, hversion⟩ := hagree d hold hne
    exact ⟨p₀, List.mem_append_left _ hp₀, hid, hversion⟩
  · obtain rfl := List.mem_singleton.mp hnew
    exact ⟨p, List.mem_append_right _ List.mem_cons_self, h.payload.ref.symm, h.version⟩

theorem fulfils_versionsAgree (h : Fulfils codec plan db db') (hagree : VersionsAgree db) : VersionsAgree db' := by
  induction h with
  | nil => exact hagree
  | create _ _ _ commits _ ih =>
    obtain ⟨_, _, htaken⟩ := createDeliverySnapshot_taken commits
    exact ih (versionsAgree_of_snapshot htaken hagree)
  | note replays _ ih =>
    apply ih
    rw [replays.frame]
    exact hagree

theorem versionsAgree_of_act (hagree : VersionsAgree db) (hact : Act l q env db q' db') : VersionsAgree db' := by
  cases deliveryMove_of_act hact with
  | dispatch dispatch =>
    obtain ⟨f, hpayloads, hkept⟩ := payloads_of_dispatch dispatch
    obtain ⟨_, hdeliveries, hsame⟩ := snapshots_of_dispatch dispatch
    intro d hd hne
    obtain ⟨d₀, hd₀, rfl⟩ := (Table.mem_map hdeliveries).mp hd
    rw [hsame d₀] at hne ⊢
    obtain ⟨p, hp, hid, hversion⟩ := hagree d₀ hd₀ hne
    refine ⟨f p, by rw [Table.mem_def, hpayloads]; exact List.mem_map_of_mem hp, ?_⟩
    rcases hkept p with hsame | hsame
    · rw [hsame]
      exact ⟨hid, hversion⟩
    · rw [hsame]
      exact ⟨hid, hversion⟩
  | snapshot taken => exact versionsAgree_of_snapshot taken hagree
  | other same =>
    unfold VersionsAgree
    rw [same.deliveries, same.deliveryPayloads]
    exact hagree

end Versions

/-! ## Copies -/

/-- The delivery is a copy of another one, in the state after the replay. -/
structure ReplayOf (db db' : DB) (d₀ d : Delivery) : Prop where
  eventID : d.eventID = d₀.eventID
  endpointID : d.endpointID = d₀.endpointID
  routeVersionID : d.routeVersionID = d₀.routeVersionID
  subscriptionVersionID : d.subscriptionVersionID = d₀.subscriptionVersionID
  retryPolicyID : d.retryPolicyID = d₀.retryPolicyID
  payload : d₀.deliveryPayloadID ≠ "" → ∃ p₀ ∈ db'.deliveryPayloads, ∃ p ∈ db'.deliveryPayloads,
    p₀.id = d₀.deliveryPayloadID ∧ p.id = d.deliveryPayloadID ∧ p.body = p₀.body ∧ p.sha256 = p₀.sha256
  version : d₀.deliveryPayloadID ≠ "" → VersionsAgree db →
    d.transformationVersionID = d₀.transformationVersionID

/-- The request asks for a copy of the delivery. -/
structure Clones (d₀ : Delivery) (req : DeliverySnapshotRequest) : Prop where
  eventID : req.eventID = d₀.eventID
  endpointID : req.endpointID = d₀.endpointID
  routeVersionID : req.routeVersionID = d₀.routeVersionID
  subscriptionVersionID : req.subscriptionVersionID = d₀.subscriptionVersionID
  retryPolicyID : req.retryPolicyID = d₀.retryPolicyID
  payload : d₀.deliveryPayloadID ≠ "" →
    req.deliveryPayloadMode = .clone ∧ req.sourceDeliveryPayloadID = d₀.deliveryPayloadID

section Copies

variable {codec : PayloadCodec} {req : DeliverySnapshotRequest} {env : Env} {ref : PayloadRef}
  {p : DeliveryPayload} {plan : List DeliverySnapshotRequest} {db₀ db db₁ db' : DB} {d₀ d : Delivery}

theorem ReplayOf.mono (h : ReplayOf db₀ db₁ d₀ d)
    (hpayloads : db₁.deliveryPayloads.rows <+: db'.deliveryPayloads.rows) : ReplayOf db₀ db' d₀ d := by
  refine { h with payload := fun hne ↦ ?_ }
  obtain ⟨p₀, hp₀, p, hp, hids⟩ := h.payload hne
  exact ⟨p₀, hpayloads.subset hp₀, p, hpayloads.subset hp, hids⟩

theorem fulfils_payloads (h : Fulfils codec plan db db') : db.deliveryPayloads.rows <+: db'.deliveryPayloads.rows := by
  induction h with
  | nil => exact List.prefix_rfl
  | create _ _ _ commits _ ih =>
    obtain ⟨_, _, htaken⟩ := createDeliverySnapshot_taken commits
    exact List.IsPrefix.trans ⟨_, htaken.payloads.symm⟩ ih
  | note replays _ ih =>
    rw [replays.frame] at ih
    exact ih

/-- The delivery of a request for a copy is a copy. -/
theorem replayOf_snapshot (hclones : Clones d₀ req)
    (h : SnapshotTaken codec env { req with nextAttemptAt := at' } db ref p db')
    (hagree : VersionsAgree db₀ → VersionsAgree db) (hd₀ : d₀ ∈ db.deliveries) :
    ReplayOf db₀ db' d₀
      ((deliveryRow codec.crypto env { req with nextAttemptAt := at' }).withPayload ref) := by
  refine { hclones with payload := fun hne ↦ ?_, version := fun hne hagree₀ ↦ ?_ }
  · obtain ⟨hmode, hsource⟩ := hclones.payload hne
    obtain ⟨p₀, hp₀, -, hid, hcopy⟩ := h.copied hmode (hsource ▸ hne)
    refine ⟨p₀, ?_, p, ?_, hid.trans hsource, h.payload.ref.symm, hcopy.body, hcopy.sha256⟩
    · exact (Table.mem_append h.payloads).mpr (.inl hp₀)
    · exact (Table.mem_of_rows_append h.payloads).mpr (.inr rfl)
  · obtain ⟨hmode, hsource⟩ := hclones.payload hne
    obtain ⟨p₀, hp₀, -, hid, hcopy⟩ := h.copied hmode (hsource ▸ hne)
    obtain ⟨p₁, hp₁, hid₁, hversion⟩ := hagree hagree₀ d₀ hd₀ hne
    obtain rfl : p₁ = p₀ := Table.eq_of_key_eq hp₁ hp₀ (hid₁.trans (hid.trans hsource).symm)
    calc ref.transformationVersionID = p.transformationVersionID := h.version.symm
      _ = p₁.transformationVersionID := hcopy.version
      _ = d₀.transformationVersionID := hversion

/-- A plan of copies leaves one copy for each delivery, in order. -/
theorem fulfils_replays (h : Fulfils codec plan db db')
    (hclones : List.Forall₂ Clones originals plan) (hagree : VersionsAgree db₀ → VersionsAgree db)
    (horiginals : ∀ d ∈ originals, d ∈ db.deliveries) :
    ∃ new, db'.deliveries.rows = db.deliveries.rows ++ new ∧
      List.Forall₂ (ReplayOf db₀ db') originals new := by
  induction h generalizing originals with
  | nil =>
    cases hclones
    exact ⟨[], (List.append_nil _).symm, .nil⟩
  | @create _ _ _ _ _ _ _ _ commits rest ih =>
    obtain ⟨original, _, hfirst, hothers, rfl⟩ := List.forall₂_cons_right_iff.mp hclones
    obtain ⟨_, _, htaken⟩ := createDeliverySnapshot_taken commits
    obtain ⟨new, hrows, hnew⟩ := ih hothers
      (fun h ↦ versionsAgree_of_snapshot htaken (hagree h)) fun d hd ↦ by
        exact (Table.mem_append htaken.deliveries).mpr (.inl (horiginals d (List.mem_cons_of_mem _ hd)))
    refine ⟨_ :: new, ?_, .cons ((replayOf_snapshot hfirst htaken hagree
      (horiginals original List.mem_cons_self)).mono (fulfils_payloads rest)) hnew⟩
    rw [hrows, htaken.deliveries, List.append_assoc, List.singleton_append]
  | note replays _ ih =>
    rw [replays.frame] at ih
    exact ih hclones hagree horiginals

end Copies

/-! ## Replays in original mode -/

section Original

variable {codec : PayloadCodec} {job : ReplayJob} {db db' : DB}

/-- The deliveries that the event of the job selects: those that no replay created. -/
def selectedOriginals (job : ReplayJob) (db : DB) : List Delivery :=
  if job.request.eventID = "" then []
  else originalDeliveries job.tenantID job.request.eventID db

/-- The plan for the event is one copy for each original, in some order. -/
theorem exists_originals (opts : DeliveryFanoutOptions) (job : ReplayJob) (db : DB) :
    ∃ originals, originals.Perm (selectedOriginals job db) ∧
      List.Forall₂ Clones originals (eventPlan job.tenantID opts .original job.request.eventID db) := by
  unfold selectedOriginals eventPlan
  split
  · exact ⟨[], List.Perm.refl _, .nil⟩
  · have hperm := List.perm_insertionSort
      (fun d d' : Delivery ↦ d.createdAt < d'.createdAt ∨ d.createdAt = d'.createdAt ∧ d.id ≤ d'.id)
      (originalDeliveries job.tenantID job.request.eventID db)
    refine ⟨_, hperm, ?_⟩
    unfold originalPlan listOriginalDeliveryReplaySources
    rw [List.map_map, List.forall₂_map_right_iff, List.forall₂_same]
    exact fun _ _ ↦ ⟨rfl, rfl, rfl, rfl, rfl, fun _ ↦ ⟨rfl, rfl⟩⟩

/-- In original mode the plan for the named delivery is one copy of it. -/
theorem clones_deliveryPlan {opts : DeliveryFanoutOptions} (hmode : opts.configMode = some .original)
    {tenantID deliveryID : String} {plan : List DeliverySnapshotRequest}
    (h : plan <+: deliveryPlan tenantID opts deliveryID db) :
    plan = [] ∨ ∃ d ∈ db.deliveries, d.tenantID = tenantID ∧ d.id = deliveryID ∧
      List.Forall₂ Clones [d] plan := by
  unfold deliveryPlan existingPlan at h
  split at h
  · exact .inl (List.prefix_nil.mp h)
  · split at h
    · exact .inl (List.prefix_nil.mp h)
    case h_2 hsource =>
      obtain ⟨d, hd, htenant, hid, rfl⟩ := exists_of_getDeliveryReplaySource hsource
      unfold existingTarget at h
      rw [if_neg fun hcurrent ↦ hcurrent.1 hmode, Option.map_some, Option.toList_some] at h
      rcases List.prefix_cons_iff.mp h with rfl | ⟨_, rfl, hrest⟩
      · exact .inl rfl
      · obtain rfl := List.prefix_nil.mp hrest
        refine .inr ⟨d, hd, htenant, hid, .cons ?_ .nil⟩
        unfold existingPayloadMode
        split
        case isTrue => exact ⟨rfl, rfl, rfl, rfl, rfl, fun _ ↦ ⟨rfl, rfl⟩⟩
        case isFalse hnone =>
          exact ⟨rfl, rfl, rfl, rfl, rfl, fun hne ↦ absurd ⟨hne, hmode⟩ hnone⟩

end Original

/-- In every state that the store reaches, deliveries have the transformation versions of their payloads.
From any state whatever, the processing of a replay job only adds rows and updates the row of that job.
In original mode it adds copies of the deliveries of the event that no replay created, in some order and
one for each unless it fails, and then at most a copy of the named delivery. -/
theorem replays_copy_originals (codec : PayloadCodec) (tenantID jobID : String) :
    (∀ events c, App.system.Run VersionsAgree events c → VersionsAgree c.state) ∧
    ∀ db r db', Program.Runs (createReplayDeliveries codec tenantID jobID) db r db' →
      Adds tenantID jobID db db' ∧
      ∀ job ∈ db.replayJobs, job.tenantID = tenantID → job.id = jobID → job.configMode = .original →
        ∃ originals copies named : List Delivery, originals.Perm (selectedOriginals job db) ∧
          db'.deliveries.rows = db.deliveries.rows ++ copies ++ named ∧
          List.Forall₂ (ReplayOf db db') (originals.take copies.length) copies ∧
          (∀ d ∈ named, ∃ d₀ ∈ db.deliveries.rows ++ copies, d₀.tenantID = tenantID ∧
            d₀.id = job.request.deliveryID ∧ ReplayOf db db' d₀ d) ∧
          named.length ≤ 1 ∧
          (r = .ok () → job.state = .scheduled → copies.length = originals.length) := by
  refine ⟨fun events c hrun ↦ ?_, fun db r db' hrun ↦ ⟨adds_of_createReplayDeliveries hrun, ?_⟩⟩
  · exact invariant_of_acts (fun _ h ↦ h) (fun _ _ _ _ _ _ ↦ versionsAgree_of_act) hrun
  · rintro job hjob rfl rfl hmode
    obtain ⟨originals, hperm, hclones⟩ := exists_originals (replayOptions job.id job.work) job db
    rcases carriedOut_of_createReplayDeliveries hjob hrun with ⟨_, hcarried⟩ | ⟨hstate, rfl⟩
    · obtain ⟨db₁, ofEvent, _, hevent, hdelivery, hdone, hdone₂, -, hall⟩ := hcarried
      rw [hmode] at hevent hall
      have hmem (d : Delivery) (hd : d ∈ originals) : d ∈ db.deliveries := by
        have hselected := hperm.subset hd
        unfold selectedOriginals at hselected
        split at hselected
        · cases hselected
        · exact (List.mem_filter.mp hselected).1
      have hpart : List.Forall₂ Clones (originals.take ofEvent.length) ofEvent := by
        have htake := List.forall₂_take ofEvent.length hclones
        rwa [← List.prefix_iff_eq_take.mp hevent] at htake
      obtain ⟨copies, hrows, hcopies⟩ : ∃ copies, db₁.deliveries.rows = db.deliveries.rows ++ copies ∧
          List.Forall₂ (ReplayOf db db₁) (originals.take ofEvent.length) copies :=
        fulfils_replays hdone hpart id fun d hd ↦ hmem d (List.mem_of_mem_take hd)
      have hlength : copies.length = ofEvent.length :=
        (hcopies.length_eq.symm.trans hpart.length_eq)
      have hmono (d₀ d : Delivery) (h : ReplayOf db db₁ d₀ d) : ReplayOf db db' d₀ d :=
        h.mono (fulfils_payloads hdone₂)
      obtain ⟨named, hrows', hnamed, hone⟩ : ∃ named, db'.deliveries.rows = db₁.deliveries.rows ++ named ∧
          (∀ d ∈ named, ∃ d₀ ∈ db₁.deliveries, d₀.tenantID = job.tenantID ∧
            d₀.id = job.request.deliveryID ∧ ReplayOf db db' d₀ d) ∧ named.length ≤ 1 := by
        rcases clones_deliveryPlan (congrArg some hmode) hdelivery with rfl | ⟨d₀, hd₀, htenant, hid, hclone⟩
        · obtain ⟨_, hrows', hnone⟩ := hdone₂.deliveries
          cases hnone
          exact ⟨[], hrows', List.forall_mem_nil _, Nat.zero_le 1⟩
        · obtain ⟨_, hrows', hcopy⟩ := fulfils_replays hdone₂ hclone
            (fulfils_versionsAgree hdone) fun d hd ↦ List.mem_singleton.mp hd ▸ hd₀
          obtain ⟨d, _, hreplay, hnil, rfl⟩ := List.forall₂_cons_left_iff.mp hcopy
          cases hnil
          refine ⟨[d], hrows', fun d' hd' ↦ ?_, le_rfl⟩
          rw [List.mem_singleton.mp hd']
          exact ⟨d₀, hd₀, htenant, hid, hreplay⟩
      refine ⟨originals, copies, named, hperm, by rw [hrows', hrows], ?_, ?_, hone, fun hr _ ↦ ?_⟩
      · rw [hlength]
        exact hcopies.imp hmono
      · rw [← hrows]
        exact hnamed
      · rw [hlength, (hall hr).1]
        exact hclones.length_eq.symm
    · refine ⟨originals, [], [], hperm, by simp, .nil, List.forall_mem_nil _, Nat.zero_le 1, fun _ h ↦ absurd h hstate⟩

/-! ### Copies of the deliveries of the shop -/

/-- The event of the shop is routed, and then a replay is requested. -/
def requestedRun (req : ReplayRequest) : AppRun :=
  runScript
    (routedScript ++ [.start (.createReplay "t" "alice" req), .go 1 20 (fun _ ↦ shopEnv 100)])
    shopQueued

def originalReplay : ReplayRequest :=
  { guardedReplay with configMode := some .original, requireApproval := false }

/-- The replay of the event with its original configuration. -/
def copiedState : DB :=
  ((createReplayDeliveries shopCodec "t" "rpl_100").run (shopFrom 110)
    (requestedRun originalReplay).2.state).2

theorem versionsAgree_shopQueued : VersionsAgree shopQueued := by
  intro d hd
  exact absurd hd (Table.not_mem_of_rows_eq_nil (by decide +kernel))

theorem shop_deliveries_copied :
    VersionsAgree (requestedRun originalReplay).2.state ∧
      Program.Runs (createReplayDeliveries shopCodec "t" "rpl_100") (requestedRun originalReplay).2.state
        (.ok ()) copiedState ∧
      Adds "t" "rpl_100" (requestedRun originalReplay).2.state copiedState ∧
      ∃ job ∈ (requestedRun originalReplay).2.state.replayJobs, ∃ originals copies named : List Delivery,
        originals.Perm (selectedOriginals job (requestedRun originalReplay).2.state) ∧
        copiedState.deliveries.rows =
          (requestedRun originalReplay).2.state.deliveries.rows ++ copies ++ named ∧
        List.Forall₂ (ReplayOf (requestedRun originalReplay).2.state copiedState)
          (originals.take copies.length) copies ∧
        (∀ d ∈ named, ∃ d₀ ∈ (requestedRun originalReplay).2.state.deliveries.rows ++ copies,
          d₀.tenantID = "t" ∧ d₀.id = job.request.deliveryID ∧
            ReplayOf (requestedRun originalReplay).2.state copiedState d₀ d) ∧
        named.length ≤ 1 ∧ copies.length = originals.length := by
  have hruns : Program.Runs (createReplayDeliveries shopCodec "t" "rpl_100")
      (requestedRun originalReplay).2.state (.ok ()) copiedState :=
    Program.runs_of_isOk (by decide +kernel)
  obtain ⟨j, hj, htenant, hid, hmode, hstate⟩ : ∃ j ∈ (requestedRun originalReplay).2.state.replayJobs,
      j.tenantID = "t" ∧ j.id = "rpl_100" ∧ j.configMode = .original ∧ j.state = .scheduled := by decide +kernel
  obtain ⟨hreached, hreplay⟩ := replays_copy_originals shopCodec "t" "rpl_100"
  obtain ⟨hadds, hcopies⟩ := hreplay _ _ _ hruns
  obtain ⟨originals, copies, named, hperm, hrows, hcopy, hnamed, hone, hall⟩ :=
    hcopies j hj htenant hid hmode
  exact ⟨hreached _ _ (run_runScript versionsAgree_shopQueued), hruns, hadds, j, hj, originals,
    copies, named, hperm, hrows, hcopy, hnamed, hone, hall rfl hstate⟩

end Webhookery.Replay
