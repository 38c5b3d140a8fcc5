import Webhookery.Signals.Abandoned
import Webhookery.Signals.Batches

/-!
# The cursor of a sink

A sink's cursor only advances with a batch that was recorded as delivered. Batches begin at most one after the
cursor that the sink had when they were built, and cursors do not decrease, so a batch that moves the cursor
leaves no gap, however late it is recorded and whatever was enqueued in between.
-/

namespace Webhookery.Signals

open Go Relational Store Audit AuditTables

variable {decryptSecret : String → String → Bytes → Option Bytes} {crypto : Crypto}

abbrev Sinks := Table SIEMSink (fun s ↦ s.id) noIndex

variable {sinks sinks' : Sinks} {audit audit' : AuditTables} {tenantID id : String} {n m : Int}
  {d : SignalDelivery SequenceRange} {sink : SIEMSink}

/-! ## Cursors -/

/-- The sink has got at least as far as a sequence number. -/
def SinkReached (sinks : Sinks) (tenantID id : String) (n : Int) : Prop :=
  ∃ sink ∈ sinks, sink.tenantID = tenantID ∧ sink.id = id ∧ n ≤ sink.cursorSequence

/-- No sink is lost, and no cursor decreases. -/
def SinksGrow (sinks sinks' : Sinks) : Prop :=
  ∀ sink ∈ sinks, SinkReached sinks' sink.tenantID sink.id sink.cursorSequence

theorem SinkReached.mono (h : SinkReached sinks tenantID id n) (hgrow : SinksGrow sinks sinks') :
    SinkReached sinks' tenantID id n := by
  obtain ⟨sink, hsink, rfl, rfl, hle⟩ := h
  obtain ⟨sink', hsink', htenant, hid, hle'⟩ := hgrow sink hsink
  exact ⟨sink', hsink', htenant, hid, hle.trans hle'⟩

theorem SinksGrow.refl : SinksGrow sinks sinks := fun sink hsink ↦ ⟨sink, hsink, rfl, rfl, le_rfl⟩

theorem SinksGrow.trans (h : SinksGrow sinks sinks') (h' : SinksGrow sinks' sinks'') : SinksGrow sinks sinks'' :=
  fun sink hsink ↦ (h sink hsink).mono h'

theorem sinksGrow_of_map (h : sinks'.rows = sinks.rows.map f)
    (hf : ∀ s, (f s).tenantID = s.tenantID ∧ (f s).id = s.id ∧ s.cursorSequence ≤ (f s).cursorSequence) :
    SinksGrow sinks sinks' := by
  intro sink hsink
  refine ⟨f sink, ?_, hf sink⟩
  exact (Table.mem_map h).mpr ⟨_, hsink, rfl⟩

theorem SIEMSink.advance_spec (s : SIEMSink) :
    (s.advance tenantID id toSequence now).tenantID = s.tenantID ∧
      (s.advance tenantID id toSequence now).id = s.id ∧
      s.cursorSequence ≤ (s.advance tenantID id toSequence now).cursorSequence := by
  unfold SIEMSink.advance
  split
  · exact ⟨rfl, rfl, le_max_left _ _⟩
  · exact ⟨rfl, rfl, le_rfl⟩

/-- The update of a sink, row by row. -/
def SIEMSink.changed (now : Time) (tenantID id : String) (change : ReceiverChange) (s : SIEMSink) : SIEMSink :=
  if s.tenantID = tenantID ∧ s.id = id then
    { s with toReceiver := s.toReceiver.change tenantID id change, updatedAt := timestamptz now }
  else s

theorem SIEMSink.changed_spec (s : SIEMSink) :
    (s.changed now tenantID id change).tenantID = s.tenantID ∧ (s.changed now tenantID id change).id = s.id ∧
      (s.changed now tenantID id change).cursorSequence = s.cursorSequence := by
  unfold SIEMSink.changed
  split
  · refine ⟨?_, Receiver.change_id _ _ _ _, rfl⟩
    dsimp only [Receiver.change]
    split <;> rfl
  · exact ⟨rfl, rfl, rfl⟩

theorem sinks_updateSIEMSink :
    (updateSIEMSink now tenantID id change db).sinks.rows = db.sinks.rows.map (SIEMSink.changed now tenantID id change) :=
  rfl

/-- No step takes a cursor back. -/
theorem SignalSystem.Stepped.sinksGrow {s s' : SignalSystem} {step : SignalStep}
    (h : s.Stepped decryptSecret crypto step s') : SinksGrow s.tables.sinks s'.tables.sinks := by
  cases h with
  | createdSink rows =>
    exact fun sink hsink ↦ ⟨sink, (Table.mem_of_rows_append rows).mpr (.inl hsink), rfl, rfl, le_rfl⟩
  | updatedSink =>
    apply sinksGrow_of_map sinks_updateSIEMSink
    intro s
    obtain ⟨htenant, hid, hcursor⟩ := s.changed_spec
    exact ⟨htenant, hid, hcursor.ge⟩
  | recordedSIEM =>
    dsimp only
    split
    · exact sinksGrow_of_map rfl SIEMSink.advance_spec
    · exact .refl
  | nothing | channels | notified | claimedNotifications | recordedNotification | retriedNotification | tested
  | readSinks | built | enqueued | stopped | claimedSIEM | retriedSIEM | audited | crashed => exact .refl

/-! ## Deliveries and enqueuers -/

/-- A delivery of a batch carries the chain, from one after a cursor that its sink has reached. -/
def DeliverySound (audit : AuditTables) (sinks : Sinks) (d : SignalDelivery SequenceRange) : Prop :=
  0 < d.key.toSequence → BatchOf audit d.tenantID d.key d.body ∧
    SinkReached sinks d.tenantID d.receiverID (d.key.fromSequence - 1)

/-- An enqueuer has read cursors that the sinks have reached, and its batch begins after that of its sink. -/
structure EnqueuerSound (audit : AuditTables) (sinks : Sinks) (e : Enqueuer) : Prop where
  cursors : ∀ sink ∈ e.sinks, 0 ≤ sink.cursor ∧ SinkReached sinks sink.tenantID sink.id sink.cursor
  batch : ∀ sink rest batch, e.sinks = sink :: rest → e.batch = some batch →
    batch.range.fromSequence = sink.cursor + 1 ∧ BatchOf audit sink.tenantID batch.range batch.body

/-- Every number up to the cursor of a sink is that of an entry in a batch that was recorded as delivered. -/
def SinkCovered (deliveries : Table (SignalDelivery SequenceRange) SignalDelivery.id siem.index)
    (succeeded : List String) (sink : SIEMSink) : Prop :=
  ∀ k, 1 ≤ k → k ≤ sink.cursorSequence → ∃ d ∈ deliveries, d.tenantID = sink.tenantID ∧ d.receiverID = sink.id ∧
    d.id ∈ succeeded ∧ d.key.fromSequence ≤ k ∧ k ≤ d.key.toSequence

theorem DeliverySound.mono (h : DeliverySound audit sinks d)
    (hkept : EntriesKept audit audit') (hgrow : SinksGrow sinks sinks') : DeliverySound audit' sinks' d :=
  fun hpos ↦ ⟨(h hpos).1.mono hkept, (h hpos).2.mono hgrow⟩

theorem DeliverySound.of_content (h : DeliverySound audit sinks d)
    (hcontent : d'.content = d.content) : DeliverySound audit sinks d' := by
  obtain ⟨-, htenant, hreceiver, hkey, hbody⟩ := SignalDelivery.content_eq_iff.mp hcontent
  unfold DeliverySound
  rw [htenant, hreceiver, hkey, hbody]
  exact h

theorem EnqueuerSound.mono (h : EnqueuerSound audit sinks e) (hkept : EntriesKept audit audit')
    (hgrow : SinksGrow sinks sinks') : EnqueuerSound audit' sinks' e where
  cursors sink hsink := ⟨(h.cursors sink hsink).1, (h.cursors sink hsink).2.mono hgrow⟩
  batch sink rest batch hsinks hbatch :=
    ⟨(h.batch sink rest batch hsinks hbatch).1, (h.batch sink rest batch hsinks hbatch).2.mono hkept⟩

theorem SinkCovered.mono {q q' : Queue siem} {succeeded succeeded' : List String} {sink sink' : SIEMSink}
    (h : SinkCovered q.deliveries succeeded sink)
    (hkept : ∀ d ∈ q.deliveries, ∃ d' ∈ q'.deliveries, d'.content = d.content)
    (hsucceeded : ∀ id ∈ succeeded, id ∈ succeeded') (htenant : sink'.tenantID = sink.tenantID)
    (hid : sink'.id = sink.id) (hcursor : sink'.cursorSequence = sink.cursorSequence) :
    SinkCovered q'.deliveries succeeded' sink' := by
  intro k hlow hhigh
  obtain ⟨d, hd, hdtenant, hreceiver, hdone, hfrom, hto⟩ := h k hlow (hcursor ▸ hhigh)
  obtain ⟨d', hd', hcontent⟩ := hkept d hd
  obtain ⟨hdid, hdtenant', hreceiver', hkey, -⟩ := SignalDelivery.content_eq_iff.mp hcontent
  refine ⟨d', hd', ?_, ?_, ?_, ?_, ?_⟩
  · rw [hdtenant', hdtenant, htenant]
  · rw [hreceiver', hreceiver, hid]
  · rw [hdid]
    exact hsucceeded d.id hdone
  · rw [hkey]
    exact hfrom
  · rw [hkey]
    exact hto

/-! ## The invariant -/

/-- What holds of the exports in every state. -/
structure Exported (crypto : Crypto) (s : SignalSystem) : Prop where
  intact : Intact crypto s.tables.audit
  cursors : ∀ sink ∈ s.tables.sinks, 0 ≤ sink.cursorSequence
  deliveries : ∀ d ∈ s.tables.siem.deliveries, DeliverySound s.tables.audit s.tables.sinks d
  enqueuers : ∀ e ∈ s.enqueuers, EnqueuerSound s.tables.audit s.tables.sinks e
  covered : ∀ sink ∈ s.tables.sinks, SinkCovered s.tables.siem.deliveries s.succeeded sink

variable {s s' : SignalSystem}

/-- A cursor lies within the chain: the entry with its number is in a batch. -/
theorem Exported.cursor_le (h : Exported crypto s) (hsink : sink ∈ s.tables.sinks) :
    sink.cursorSequence ≤ (s.tables.audit.chainOf sink.tenantID).length := by
  by_cases hpos : 1 ≤ sink.cursorSequence
  · obtain ⟨d, hd, htenant, -, -, -, _⟩ := h.covered sink hsink sink.cursorSequence hpos le_rfl
    have hbatch := (h.deliveries d hd (by omega)).1.toSequence_le h.intact.toSound
    rw [htenant] at hbatch
    omega
  · omega

/-- A change of the system that leaves the exports as they are: no batch is added, and no cursor moves. -/
structure Quiet (s s' : SignalSystem) : Prop where
  entries : EntriesKept s.tables.audit s'.tables.audit
  sinks : SinksGrow s.tables.sinks s'.tables.sinks
  sinkOrigin : ∀ sink' ∈ s'.tables.sinks, sink'.cursorSequence = 0 ∨ ∃ sink ∈ s.tables.sinks,
    sink'.tenantID = sink.tenantID ∧ sink'.id = sink.id ∧ sink'.cursorSequence = sink.cursorSequence
  deliveries : ∀ d ∈ s.tables.siem.deliveries, ∃ d' ∈ s'.tables.siem.deliveries, d'.content = d.content
  deliveryOrigin : ∀ d' ∈ s'.tables.siem.deliveries, d'.key.toSequence ≤ 0 ∨
    ∃ d ∈ s.tables.siem.deliveries, d'.content = d.content
  enqueuers : ∀ e ∈ s'.enqueuers, e ∈ s.enqueuers
  succeeded : ∀ id ∈ s.succeeded, id ∈ s'.succeeded

namespace Quiet

protected theorem refl (s : SignalSystem) : Quiet s s where
  entries := .refl
  sinks := .refl
  sinkOrigin sink hsink := .inr ⟨sink, hsink, rfl, rfl, rfl⟩
  deliveries d hd := ⟨d, hd, rfl⟩
  deliveryOrigin d hd := .inr ⟨d, hd, rfl⟩
  enqueuers _ he := he
  succeeded _ hid := hid

/-- An `UPDATE` of deliveries is quiet. -/
theorem of_updated (h : s.tables.siem.Updated touched s'.tables.siem) (haudit : s'.tables.audit = s.tables.audit)
    (hsinks : s'.tables.sinks = s.tables.sinks) (henqueuers : s'.enqueuers = s.enqueuers)
    (hsucceeded : s'.succeeded = s.succeeded) : Quiet s s' where
  entries := haudit ▸ .refl
  sinks := hsinks ▸ .refl
  sinkOrigin := by
    rw [hsinks]
    exact (Quiet.refl s).sinkOrigin
  deliveries _ hd := h.kept hd
  deliveryOrigin _ hd := .inr (h.origin hd)
  enqueuers _ he := henqueuers ▸ he
  succeeded _ hid := hsucceeded ▸ hid

end Quiet

theorem Exported.of_quiet (h : Exported crypto s) (hquiet : Quiet s s') (hintact : Intact crypto s'.tables.audit) :
    Exported crypto s' where
  intact := hintact
  cursors sink' hsink' := by
    rcases hquiet.sinkOrigin sink' hsink' with hzero | ⟨sink, hsink, -, -, hcursor⟩
    · exact hzero.ge
    · rw [hcursor]
      exact h.cursors sink hsink
  deliveries d' hd' := by
    rcases hquiet.deliveryOrigin d' hd' with _ | ⟨d, hd, hcontent⟩
    · exact fun hpos ↦ absurd hpos (by omega)
    · exact ((h.deliveries d hd).mono hquiet.entries hquiet.sinks).of_content hcontent
  enqueuers e he := (h.enqueuers e (hquiet.enqueuers e he)).mono hquiet.entries hquiet.sinks
  covered sink' hsink' := by
    rcases hquiet.sinkOrigin sink' hsink' with _ | ⟨sink, hsink, htenant, hid, hcursor⟩
    · exact fun k hlow hhigh ↦ absurd hlow (by omega)
    · exact (h.covered sink hsink).mono hquiet.deliveries hquiet.succeeded htenant hid hcursor

/-! ## Steps that export -/

/-- Enqueuers may read and build. -/
theorem Exported.of_enqueuers (h : Exported crypto s) {enqueuers : List Enqueuer}
    (hsound : ∀ e ∈ enqueuers, EnqueuerSound s.tables.audit s.tables.sinks e) :
    Exported crypto { s with enqueuers } :=
  { h with enqueuers := hsound }

theorem mem_sinksToVisit {db : SignalTables} {scan : Scan SIEMSink} {limit : Int}
    (h : sink ∈ db.sinksToVisit scan limit) : sink ∈ db.sinks ∧ db.idleSink sink = true := by
  obtain ⟨hscan, hidle⟩ := List.mem_filter.mp ((List.mem_insertionSort _).mp (List.mem_of_mem_take h))
  exact ⟨(scan.perm _).mem_iff.mp hscan, hidle⟩

/-- The cursors that an enqueuer reads are those of the sinks. -/
theorem enqueuerSound_read (h : Exported crypto s) (scan : Scan SIEMSink) (limit : Int) :
    EnqueuerSound s.tables.audit s.tables.sinks ⟨(s.tables.sinksToVisit scan limit).map SIEMSink.read, none⟩ where
  cursors cursor hcursor := by
    obtain ⟨sink, hvisit, rfl⟩ := List.mem_map.mp hcursor
    obtain ⟨hsink, -⟩ := mem_sinksToVisit hvisit
    exact ⟨h.cursors sink hsink, sink, hsink, rfl, rfl, le_rfl⟩
  batch _ _ _ _ hbatch := by cases hbatch

/-- A batch that an enqueuer builds is one of the chain. -/
theorem EnqueuerSound.build (he : EnqueuerSound s.tables.audit s.tables.sinks e)
    (h : Exported crypto s) : EnqueuerSound s.tables.audit s.tables.sinks (buildStep s.tables e) := by
  unfold buildStep
  split
  case h_1 sink rest hsinks _ =>
    have hrest : ∀ other ∈ rest, 0 ≤ other.cursor ∧
        SinkReached s.tables.sinks other.tenantID other.id other.cursor :=
      fun other hother ↦ he.cursors other (hsinks ▸ List.mem_cons_of_mem _ hother)
    split
    case h_1 => exact ⟨hrest, fun _ _ _ _ hbatch ↦ by cases hbatch⟩
    case h_2 hbuild =>
      have hfirst := he.cursors sink (hsinks ▸ List.mem_cons_self)
      refine ⟨List.forall_mem_cons.mpr ⟨hfirst, hrest⟩, ?_⟩
      intro sink' rest' batch' hsinks' hbatch'
      obtain ⟨rfl, rfl⟩ := List.cons.inj hsinks'
      cases hbatch'
      -- The cursor was that of the sink once, so that it lies within the chain.
      obtain ⟨hnonneg, _, hrow, htenant, -, hreached⟩ := hfirst
      have hle := h.cursor_le hrow
      rw [htenant] at hle
      exact batchOf_buildSIEMBatch h.intact.toSound hnonneg (hreached.trans hle) (by decide) hbuild
  case h_2 => exact he

/-- An insertion adds the delivery of the batch, or leaves the one that is there. -/
theorem Exported.enqueue (h : Exported crypto s) {e : Enqueuer} {sink : SinkCursor} {rest : List SinkCursor}
    {batch : SIEMBatch} {env : Env} {q : Queue siem} (he : e ∈ s.enqueuers) (hsinks : e.sinks = sink :: rest)
    (hbatch : e.batch = some batch)
    (hinsert : s.tables.siem.insert env sink.tenantID sink.id batch.range batch.body = .ok q) :
    Exported crypto { s with tables := { s.tables with siem := q } } := by
  obtain ⟨hfrom, hbatchOf⟩ := (h.enqueuers e he).batch sink rest batch hsinks hbatch
  have hreached := ((h.enqueuers e he).cursors sink (hsinks ▸ List.mem_cons_self)).2
  rcases Queue.insert_eq_ok hinsert with ⟨rfl, -⟩ | ⟨d, hrows, htenant, hreceiver, hkey, hbody, -, -⟩
  · exact h
  · refine { h with deliveries := fun d' hd' ↦ ?_, covered := fun sink' hsink' ↦ ?_ }
    · rcases (Table.mem_of_rows_append hrows).mp hd' with hd' | rfl
      · exact h.deliveries d' hd'
      · intro _
        rw [htenant, hreceiver, hkey, hbody]
        refine ⟨hbatchOf, ?_⟩
        rw [hfrom, add_sub_cancel_right]
        exact hreached
    · apply (h.covered sink' hsink').mono _ (fun _ hid ↦ hid) rfl rfl rfl
      exact fun d' hd' ↦ ⟨d', (Table.mem_of_rows_append hrows).mpr (.inl hd'), rfl⟩

/-- The sink after a successful record has its old cursor, or that of the delivered batch, which leaves no gap
after the old one. -/
theorem Exported.covered_advance (h : Exported crypto s)
    (hd : d ∈ s.tables.siem.deliveries) (hpos : 0 < d.key.toSequence) {succeeded : List String}
    (hsucceeded : ∀ id ∈ s.succeeded, id ∈ succeeded) (hdone : d.id ∈ succeeded)
    (hsink : sink ∈ s.tables.sinks) (now : Time) :
    SinkCovered s.tables.siem.deliveries succeeded (sink.advance d.tenantID d.receiverID d.key.toSequence now) := by
  have hold : SinkCovered s.tables.siem.deliveries succeeded sink :=
    (h.covered sink hsink).mono (fun d' hd' ↦ ⟨d', hd', rfl⟩) hsucceeded rfl rfl rfl
  unfold SIEMSink.advance
  split
  case isTrue hself =>
    intro k hlow hhigh
    dsimp only at hhigh ⊢
    by_cases hbefore : k ≤ sink.cursorSequence
    · exact hold k hlow hbefore
    · obtain ⟨-, row, hrow, -, hid, _⟩ := h.deliveries d hd hpos
      obtain rfl : row = sink := Table.eq_of_key_eq hrow hsink (hid.trans hself.2.symm)
      exact ⟨d, hd, hself.1.symm, hself.2.symm, hdone, by omega, by omega⟩
  case isFalse => exact hold

theorem Exported.record (h : Exported crypto s)
    (hd : d ∈ s.tables.siem.deliveries) (succeeds : Bool) (now : Time) :
    Exported crypto { s with
      tables := { s.tables with
        sinks := if succeeds = true ∧ 0 < d.key.toSequence then
            s.tables.sinks.modify (SIEMSink.advance d.tenantID d.receiverID d.key.toSequence now)
              (SIEMSink.advance_id _ _ _ _) fun _ ↦ rfl
          else s.tables.sinks }
      succeeded := if succeeds then d.id :: s.succeeded else s.succeeded } := by
  by_cases hadvance : succeeds = true ∧ 0 < d.key.toSequence
  · obtain ⟨rfl, hpos⟩ := hadvance
    have hgrow : SinksGrow s.tables.sinks
        (s.tables.sinks.modify (SIEMSink.advance d.tenantID d.receiverID d.key.toSequence now)
          (SIEMSink.advance_id _ _ _ _) fun _ ↦ rfl) := sinksGrow_of_map rfl SIEMSink.advance_spec
    rw [if_pos ⟨rfl, hpos⟩, if_pos rfl]
    refine ⟨h.intact, ?_, ?_, ?_, ?_⟩
    · intro sink' hsink'
      obtain ⟨sink, hsink, rfl⟩ := List.mem_map.mp hsink'
      exact (h.cursors sink hsink).trans sink.advance_spec.2.2
    · exact fun d' hd' ↦ (h.deliveries d' hd').mono .refl hgrow
    · exact fun e he ↦ (h.enqueuers e he).mono .refl hgrow
    · intro sink' hsink'
      obtain ⟨_, hsink, rfl⟩ := List.mem_map.mp hsink'
      exact h.covered_advance hd hpos (fun _ ↦ List.mem_cons_of_mem _) List.mem_cons_self hsink now
  · rw [if_neg hadvance]
    refine h.of_quiet { Quiet.refl s with succeeded := fun id hid ↦ ?_ } h.intact
    dsimp only
    split
    · exact List.mem_cons_of_mem _ hid
    · exact hid

/-! ## Runs -/

theorem Exported.step (h : Exported crypto s) {step : SignalStep} (hfresh : step.Fresh s)
    (hstep : s.Stepped decryptSecret crypto step s') : Exported crypto s' := by
  have hgrow := hstep.sinksGrow
  cases hstep with
  | nothing | channels | notified | claimedNotifications | recordedNotification | retriedNotification | crashed =>
    exact h.of_quiet { Quiet.refl s with } h.intact
  | createdSink rows cursor =>
    refine h.of_quiet { Quiet.refl s with sinks := hgrow, sinkOrigin := fun sink' hsink' ↦ ?_ } h.intact
    rcases (Table.mem_of_rows_append rows).mp hsink' with hsink' | rfl
    · exact .inr ⟨sink', hsink', rfl, rfl, rfl⟩
    · exact .inl cursor
  | updatedSink =>
    refine h.of_quiet { Quiet.refl s with sinks := hgrow, sinkOrigin := fun sink' hsink' ↦ ?_ } h.intact
    obtain ⟨sink, hsink, rfl⟩ := (Table.mem_map sinks_updateSIEMSink).mp hsink'
    exact .inr ⟨sink, hsink, sink.changed_spec⟩
  | tested inserts =>
    rcases Queue.insert_eq_ok inserts with ⟨rfl, -⟩ | ⟨d, hrows, -, -, hkey, -⟩
    · exact h
    · refine h.of_quiet { Quiet.refl s with
        deliveries := fun d' hd' ↦ ⟨d', (Table.mem_of_rows_append hrows).mpr (.inl hd'), rfl⟩
        deliveryOrigin := fun d' hd' ↦ ?_ } h.intact
      rcases (Table.mem_of_rows_append hrows).mp hd' with hd' | rfl
      · exact .inr ⟨d', hd', rfl⟩
      · rw [hkey]
        exact .inl le_rfl
  | readSinks scan limit =>
    exact h.of_enqueuers (Concurrency.forall_mem_snoc.mpr ⟨h.enqueuers, enqueuerSound_read h scan limit⟩)
  | built runs =>
    apply h.of_enqueuers
    intro e he
    rcases List.mem_or_eq_of_mem_set he with he | rfl
    · exact h.enqueuers e he
    · exact (h.enqueuers _ (List.mem_of_getElem? runs)).build h
  | enqueued runs inserts =>
    have hmem := List.mem_of_getElem? runs
    apply (h.enqueue hmem rfl rfl inserts).of_enqueuers
    intro e he
    rcases List.mem_or_eq_of_mem_set he with he | rfl
    · exact h.enqueuers e he
    · have hcursors := (h.enqueuers _ hmem).cursors
      exact ⟨fun sink hsink ↦ hcursors sink (List.mem_cons_of_mem _ hsink), fun _ _ _ _ hbatch ↦ by cases hbatch⟩
  | stopped => exact h.of_enqueuers fun e he ↦ h.enqueuers e (List.mem_of_mem_eraseIdx he)
  | claimedSIEM claims => exact h.of_quiet (.of_updated (Queue.claim_eq_ok claims).1 rfl rfl rfl rfl) h.intact
  | @recordedSIEM _ env result deliverErr _ _ _ _ delivery tenant id records =>
    rw [← tenant, ← id]
    have hrecord := h.record delivery (result.succeeded deliverErr) env.now
    exact hrecord.of_quiet (.of_updated (Queue.record_eq_ok records) rfl rfl rfl rfl) h.intact
  | retriedSIEM retries => exact h.of_quiet (.of_updated (Queue.retry_eq_ok retries) rfl rfl rfl rfl) h.intact
  | audited =>
    let log : AuditLog := ⟨s.tables.audit, []⟩
    have hintact : Intact crypto log.tables := h.intact
    obtain ⟨hintact, hkept⟩ := AuditOp.tables_perform hintact hfresh
    exact h.of_quiet { Quiet.refl s with entries := hkept } hintact

theorem Reached.exported (hstart : audit.Unchained) (h : Reached decryptSecret crypto audit s) : Exported crypto s := by
  induction h with
  | initial =>
    refine ⟨hstart.intact, ?_, ?_, ?_, ?_⟩ <;> exact List.forall_mem_nil _
  | step _ step hfresh ih => exact ih.step hfresh (SignalSystem.stepped decryptSecret crypto _ step)

theorem sinksGrow_performAll (steps : List SignalStep) (s : SignalSystem) :
    SinksGrow s.tables.sinks (s.performAll decryptSecret crypto steps).tables.sinks := by
  induction steps generalizing s with
  | nil => exact .refl
  | cons step _ ih => exact (s.stepped decryptSecret crypto step).sinksGrow.trans (ih _)

/-- Whatever is done, and in which order: the cursor of a sink does not decrease, and every entry up to it was
in a batch that was recorded as delivered to the sink. -/
theorem cursor_covered (hstart : audit.Unchained) (h : Reached decryptSecret crypto audit s) (sink : SIEMSink)
    (hsink : sink ∈ s.tables.sinks) :
    (∀ steps : List SignalStep, ∃ sink' ∈ (s.performAll decryptSecret crypto steps).tables.sinks,
      sink'.tenantID = sink.tenantID ∧ sink'.id = sink.id ∧ sink.cursorSequence ≤ sink'.cursorSequence) ∧
    ∀ k, 1 ≤ k → k ≤ sink.cursorSequence →
      ∃ d ∈ s.tables.siem.deliveries, d.tenantID = sink.tenantID ∧ d.receiverID = sink.id ∧ d.id ∈ s.succeeded ∧
        d.key.fromSequence ≤ k ∧ k ≤ d.key.toSequence ∧
        ∃ entry ∈ s.tables.audit.chainOf sink.tenantID, entry.sequence = k ∧ Carries sink.tenantID entry d.body := by
  have hexported := h.exported hstart
  refine ⟨fun steps ↦ sinksGrow_performAll steps s sink hsink, fun k hlow hhigh ↦ ?_⟩
  obtain ⟨d, hd, htenant, hreceiver, hdone, hfrom, hto⟩ := hexported.covered sink hsink k hlow hhigh
  obtain ⟨hbatch, -⟩ := hexported.deliveries d hd (by omega)
  obtain ⟨entry, hentry, hcarries⟩ := hbatch.carries k hfrom hto
  rw [htenant] at hentry hcarries
  exact ⟨d, hd, htenant, hreceiver, hdone, hfrom, hto, entry, hentry, hcarries⟩

/-- Two audit events are exported in a batch, which an operator retries while a worker sends it; that worker
reports late. -/
def exportSteps : List SignalStep :=
  [.createSink (noon "a") "ten_1" "https://siem.example" [2],
    .audit (.record (tenthDay "b") [routeUpdated] true), .audit (.record (tenthDay "c") [routeUpdated] true),
    .readSinks .sequential 10, .buildBatch 0, .insertBatch 0 (noon "a"),
    .claimSIEM "wrk_1" 10 (12 * 60 * minute), .retrySIEM (12 * 60 * minute) "ten_1" "sdel_a",
    .claimSIEM "wrk_2" 10 (12 * 60 * minute), .recordSIEM 0 (noon "a") ⟨200, [], false, ""⟩ none]

def exported : SignalSystem := (SignalSystem.initial oldTables).performAll plainSecrets .standard exportSteps

theorem reached_exported : Reached plainSecrets .standard oldTables exported := by
  refine Reached.initial.performAll
    ⟨trivial, ?_, ?_, trivial, trivial, trivial, trivial, trivial, trivial, trivial, trivial⟩
  · exact fresh_tenthDay "b" (by decide +kernel)
  · exact fresh_tenthDay "c" (by decide +kernel)

/-- The second event was exported. -/
theorem second_event_covered :
    ∃ d ∈ exported.tables.siem.deliveries, d.id ∈ exported.succeeded ∧ d.key.fromSequence ≤ 2 ∧
      2 ≤ d.key.toSequence := by
  have hstart : oldTables.Unchained := ⟨rfl, rfl, by decide⟩
  obtain ⟨sink, hsink, hcursor⟩ : ∃ sink ∈ exported.tables.sinks, 2 ≤ sink.cursorSequence :=
    ⟨_, List.mem_singleton.mpr rfl, by decide +kernel⟩
  obtain ⟨d, hd, -, -, hdone, hfrom, hto, -⟩ :=
    (cursor_covered hstart reached_exported sink hsink).2 2 (by decide) hcursor
  exact ⟨d, hd, hdone, hfrom, hto⟩

end Webhookery.Signals
