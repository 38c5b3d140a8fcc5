import Webhookery.Signals.Cursor

/-!
# Batches that are proposed again

`EnqueueSIEMDeliveries` passes over sinks with a delivery that is scheduled or in progress. For any other sink
it builds the batch that follows the cursor and inserts it, but an insertion finds the delivery of an earlier
batch with the same range and leaves it as it is, in whatever state that is.
-/

namespace Webhookery.Signals

open Go Relational Store Audit AuditTables

variable {decryptSecret : String → String → Bytes → Option Bytes} {crypto : Crypto} {audit : AuditTables}
  {s : SignalSystem} {db db' db'' : SignalTables} {cursors : List SinkCursor} {envs : SinkCursor → Env}
  {scan : Scan SIEMSink} {limit : Int}

/-- The batch of a sink, with the limit of `EnqueueSIEMDeliveries`. -/
def nextBatch (audit : AuditTables) (sink : SinkCursor) : Option SIEMBatch :=
  buildSIEMBatch sink.tenantID sink.cursor 100 audit

/-- The delivery is that of a batch of the sink. -/
structure DeliversNext (audit : AuditTables) (sink : SinkCursor) (d : SignalDelivery SequenceRange) : Prop where
  tenant : d.tenantID = sink.tenantID
  receiver : d.receiverID = sink.id
  range : (nextBatch audit sink).map SIEMBatch.range = some d.key

/-- What enqueueing for a list of sinks does to the deliveries: the new ones are scheduled and deliver batches
of these sinks, and every batch has a delivery, which need not be a new one. -/
structure Enqueued (cursors : List SinkCursor) (db db' : SignalTables) : Prop where
  audit : db'.audit = db.audit
  kept : ∀ d ∈ db.siem.deliveries, d ∈ db'.siem.deliveries
  origin : ∀ d ∈ db'.siem.deliveries, d ∈ db.siem.deliveries ∨
    d.state = .scheduled ∧ ∃ sink ∈ cursors, DeliversNext db.audit sink d
  delivered : ∀ sink ∈ cursors, (nextBatch db.audit sink).isSome → ∃ d ∈ db'.siem.deliveries, DeliversNext db.audit sink d

theorem Enqueued.nil : Enqueued [] db db where
  audit := rfl
  kept _ hd := hd
  origin _ hd := .inl hd
  delivered _ hsink := absurd hsink List.not_mem_nil

theorem Enqueued.cons (h : Enqueued [sink] db db')
    (hrest : Enqueued rest db' db'') : Enqueued (sink :: rest) db db'' where
  audit := hrest.audit.trans h.audit
  kept d hd := hrest.kept d (h.kept d hd)
  origin d hd := by
    rcases hrest.origin d hd with hd | ⟨hstate, other, hother, hdelivers⟩
    · rcases h.origin d hd with hd | ⟨hstate, other, hother, hdelivers⟩
      · exact .inl hd
      · rw [List.mem_singleton] at hother
        exact .inr ⟨hstate, other, hother ▸ List.mem_cons_self, hdelivers⟩
    · rw [h.audit] at hdelivers
      exact .inr ⟨hstate, other, List.mem_cons_of_mem _ hother, hdelivers⟩
  delivered other hother hbatch := by
    rcases List.mem_cons.mp hother with rfl | hother
    · obtain ⟨d, hd, hdelivers⟩ := h.delivered other List.mem_cons_self hbatch
      exact ⟨d, hrest.kept d hd, hdelivers⟩
    · rw [← h.audit] at hbatch ⊢
      exact hrest.delivered other hother hbatch

theorem enqueueSink_eq_ok (h : enqueueSink env sink db = .ok db') : Enqueued [sink] db db' := by
  unfold enqueueSink at h
  split at h
  case h_1 hnone =>
    cases h
    refine { Enqueued.nil with origin := fun d hd ↦ .inl hd, delivered := fun other hother hbatch ↦ ?_ }
    rw [List.mem_singleton.mp hother, nextBatch, hnone] at hbatch
    cases hbatch
  case h_2 batch hbuild =>
    have hrange (d : SignalDelivery SequenceRange) (htenant : d.tenantID = sink.tenantID)
        (hreceiver : d.receiverID = sink.id) (hkey : d.key = batch.range) : DeliversNext db.audit sink d :=
      ⟨htenant, hreceiver, by rw [nextBatch, hbuild, hkey]; rfl⟩
    obtain ⟨q, hinsert, rfl⟩ := insertSIEMDelivery_eq_ok h
    rcases Queue.insert_eq_ok hinsert with
      ⟨rfl, d, hd, htenant, hreceiver, hkey⟩ | ⟨d, hrows, htenant, hreceiver, hkey, -, hstate, -⟩
    · refine { Enqueued.nil with origin := fun d hd ↦ .inl hd, delivered := fun other hother _ ↦ ?_ }
      rw [List.mem_singleton.mp hother]
      exact ⟨d, hd, hrange d htenant hreceiver hkey⟩
    · have hmem {d' : SignalDelivery SequenceRange} : d' ∈ q.deliveries ↔ d' ∈ db.siem.deliveries ∨ d' = d :=
        Table.mem_of_rows_append hrows
      have hdelivers := hrange d htenant hreceiver hkey
      refine ⟨rfl, fun d' hd' ↦ hmem.mpr (.inl hd'), fun d' hd' ↦ ?_, fun other hother _ ↦ ?_⟩
      · rcases hmem.mp hd' with hd' | rfl
        · exact .inl hd'
        · exact .inr ⟨hstate, sink, List.mem_cons_self, hdelivers⟩
      · rw [List.mem_singleton.mp hother]
        exact ⟨d, hmem.mpr (.inr rfl), hdelivers⟩

theorem foldlM_enqueueSink_eq_ok
    (h : cursors.foldlM (fun db sink ↦ enqueueSink (envs sink) sink db) db = .ok db') : Enqueued cursors db db' := by
  induction cursors generalizing db with
  | nil =>
    cases h
    exact .nil
  | cons _ _ ih =>
    obtain ⟨_, hsink, h⟩ := bind_eq_ok.mp h
    exact (enqueueSink_eq_ok hsink).cons (ih h)

/-- The steps of an enqueuer that nothing comes between. -/
def enqueueSteps (i : Nat) (envs : SinkCursor → Env) (cursors : List SinkCursor) : List SignalStep :=
  cursors.flatMap fun sink ↦ [.buildBatch i, .insertBatch i (envs sink)]

theorem perform_enqueueSink (hrun : s.enqueuers[i]? = some ⟨sink :: rest, none⟩)
    (h : enqueueSink env sink s.tables = .ok db) :
    s.performAll decryptSecret crypto [.buildBatch i, .insertBatch i env] =
      { s with tables := db, enqueuers := s.enqueuers.set i ⟨rest, none⟩ } := by
  obtain ⟨hi, -⟩ := List.getElem?_eq_some_iff.mp hrun
  have hset (e : Enqueuer) : (s.enqueuers.set i e)[i]? = some e := by simp [hi]
  have hbuild : s.perform decryptSecret crypto (.buildBatch i) =
      { s with enqueuers := s.enqueuers.set i (buildStep s.tables ⟨sink :: rest, none⟩) } := by
    simp only [SignalSystem.perform, hrun]
  change (s.perform decryptSecret crypto (.buildBatch i)).perform decryptSecret crypto (.insertBatch i env) = _
  rw [hbuild]
  unfold enqueueSink at h
  split at h
  case h_1 hnone =>
    cases h
    simp only [SignalSystem.perform, buildStep, hnone, hset]
  case h_2 hbatch => simp only [SignalSystem.perform, buildStep, hbatch, hset, h, List.set_set]

theorem performAll_enqueueSteps (hrun : s.enqueuers[i]? = some ⟨cursors, none⟩)
    (h : cursors.foldlM (fun db sink ↦ enqueueSink (envs sink) sink db) s.tables = .ok db') :
    (s.performAll decryptSecret crypto (enqueueSteps i envs cursors)).tables = db' := by
  induction cursors generalizing s with
  | nil => exact Except.ok.inj h
  | cons sink rest ih =>
    obtain ⟨db, hsink, h⟩ := bind_eq_ok.mp h
    obtain ⟨hi, -⟩ := List.getElem?_eq_some_iff.mp hrun
    have hsteps : s.performAll decryptSecret crypto (enqueueSteps i envs (sink :: rest)) =
        (s.performAll decryptSecret crypto [.buildBatch i, .insertBatch i (envs sink)]).performAll decryptSecret crypto
          (enqueueSteps i envs rest) := List.foldl_append
    rw [hsteps, perform_enqueueSink hrun hsink]
    exact ih (by simp [hi]) h

/-- A call that nothing comes between does what its statements do as steps of the system. -/
theorem performAll_enqueueSIEMDeliveries (hok : enqueueSIEMDeliveries envs scan limit s.tables = .ok db') :
    (s.performAll decryptSecret crypto (.readSinks scan limit ::
      enqueueSteps s.enqueuers.length envs ((s.tables.sinksToVisit scan limit).map SIEMSink.read))).tables = db' :=
  performAll_enqueueSteps (s := s.perform decryptSecret crypto (.readSinks scan limit))
    (by simp [SignalSystem.perform]) hok

/-- An idle sink has no delivery that is scheduled or in progress. -/
theorem not_openState_of_idle (h : db.idleSink sink = true)
    (hd : d ∈ db.siem.deliveries) (htenant : d.tenantID = sink.tenantID) (hreceiver : d.receiverID = sink.id) :
    openState d.state = false := by
  simp only [SignalTables.idleSink, Bool.and_eq_true, Bool.not_eq_true', List.any_eq_false] at h
  have hnot := h.2 d hd
  simpa [htenant, hreceiver] using hnot

/-- The range that follows the cursor of a sink: a hundred entries, or all up to the head. -/
def SIEMSink.nextRange (sink : SIEMSink) (head : Int) : SequenceRange :=
  ⟨sink.cursorSequence + 1, min (sink.cursorSequence + 100) head⟩

/-- The batch of a sink that is behind the head has the range that follows the cursor. -/
theorem Exported.range_nextBatch (h : Exported crypto s) (hsink : sink ∈ s.tables.sinks)
    (hbehind : sink.cursorSequence < (s.tables.audit.headOf sink.tenantID).1) :
    (nextBatch s.tables.audit sink.read).map SIEMBatch.range =
      some (sink.nextRange (s.tables.audit.headOf sink.tenantID).1) := by
  have hhead := (h.intact.heads sink.tenantID).sequence_eq
  rw [hhead] at hbehind ⊢
  rw [nextBatch, SIEMSink.read, buildSIEMBatch_eq h.intact.toSound (h.cursors sink hsink) (h.cursor_le hsink) (by decide),
    if_neg hbehind.ne]
  rfl

/-- A visited sink that is behind has an open delivery right after its cursor exactly when no delivery of an
earlier batch has taken the range. -/
theorem open_batch_iff_range_free (hstart : audit.Unchained) (h : Reached decryptSecret crypto audit s)
    (hok : enqueueSIEMDeliveries envs scan limit s.tables = .ok db') (sink : SIEMSink)
    (hvisit : sink ∈ s.tables.sinksToVisit scan limit)
    (hbehind : sink.cursorSequence < (s.tables.audit.headOf sink.tenantID).1) :
    (∃ d ∈ db'.siem.deliveries, d.tenantID = sink.tenantID ∧ d.receiverID = sink.id ∧ openState d.state = true ∧
      d.key.fromSequence = sink.cursorSequence + 1) ↔
    ∀ d ∈ s.tables.siem.deliveries, d.tenantID = sink.tenantID → d.receiverID = sink.id →
      d.key ≠ sink.nextRange (s.tables.audit.headOf sink.tenantID).1 := by
  have hexported := h.exported hstart
  obtain ⟨hsink, hidle⟩ := mem_sinksToVisit hvisit
  have hrange := hexported.range_nextBatch hsink hbehind
  have henqueued := foldlM_enqueueSink_eq_ok hok
  constructor
  · rintro ⟨d, hd, htenant, hreceiver, hopen, -⟩ d₀ hd₀ htenant₀ hreceiver₀ hkey₀
    rcases henqueued.origin d hd with hold | ⟨-, _, hcursor, hdelivers⟩
    · rw [not_openState_of_idle hidle hold htenant hreceiver] at hopen
      cases hopen
    · -- The new delivery is one for this sink, so that it would have the key of the old one.
      obtain ⟨sink', hvisit', rfl⟩ := List.mem_map.mp hcursor
      obtain rfl : sink' = sink :=
        Table.eq_of_key_eq (mem_sinksToVisit hvisit').1 hsink (hdelivers.receiver.symm.trans hreceiver)
      have hkey : d.key = d₀.key := by
        rw [hkey₀]
        exact Option.some.inj (hdelivers.range.symm.trans hrange)
      have hnonneg := hexported.cursors sink' hsink
      have hunique : siem.unique d₀.key = true := by
        rw [hkey₀]
        exact (Bool.or_eq_true _ _).mpr (.inl (decide_eq_true (by dsimp only [SIEMSink.nextRange]; omega)))
      have hindex₀ : siem.index d₀ = some (sink'.tenantID, sink'.id, d₀.key) := by
        rw [Family.index, if_pos hunique, htenant₀, hreceiver₀]
      have hindex : siem.index d = some (sink'.tenantID, sink'.id, d₀.key) := by
        rw [Family.index, hkey, if_pos hunique, htenant, hreceiver]
      obtain rfl := Table.eq_of_index_eq hd (henqueued.kept d₀ hd₀) hindex hindex₀
      rw [not_openState_of_idle hidle hd₀ htenant₀ hreceiver₀] at hopen
      cases hopen
  · intro hfree
    have hbatch : (nextBatch s.tables.audit sink.read).isSome := by
      rw [← Option.isSome_map, hrange]
      rfl
    obtain ⟨d, hd, hdelivers⟩ := henqueued.delivered sink.read (List.mem_map_of_mem hvisit) hbatch
    have hkey : d.key = sink.nextRange (s.tables.audit.headOf sink.tenantID).1 :=
      Option.some.inj (hdelivers.range.symm.trans hrange)
    rcases henqueued.origin d hd with hold | ⟨hstate, -⟩
    · exact absurd hkey (hfree d hold hdelivers.tenant hdelivers.receiver)
    · exact ⟨d, hd, hdelivers.tenant, hdelivers.receiver, by rw [hstate]; rfl, by rw [hkey]; rfl⟩

/-- The sink has received two events, and there is a third one. -/
def resumed : SignalSystem :=
  exported.performAll plainSecrets .standard [.audit (.record (tenthDay "d") [routeUpdated] true)]

theorem reached_resumed : Reached plainSecrets .standard oldTables resumed :=
  reached_exported.performAll ⟨fresh_tenthDay "d" (by decide +kernel), trivial⟩

/-- The batch after one that was delivered is scheduled. -/
theorem next_batch_open :
    resumed.tables.siem.deliveries.rows.map (fun d ↦ (d.key, d.state)) = [(⟨1, 2⟩, .succeeded)] ∧
      ∃ db', enqueueSIEMDeliveries (fun _ ↦ noon "d") .sequential 10 resumed.tables = .ok db' ∧
        db'.siem.deliveries.rows.length = 2 ∧
        ∃ d ∈ db'.siem.deliveries, openState d.state = true ∧ d.key.fromSequence = 3 := by
  obtain ⟨db', hok, hlength⟩ : ∃ db', enqueueSIEMDeliveries (fun _ ↦ noon "d") .sequential 10 resumed.tables = .ok db' ∧
      db'.siem.deliveries.rows.length = 2 := by decide +kernel
  obtain ⟨sink, hvisit, hcursor, hbehind, hfree⟩ : ∃ sink ∈ resumed.tables.sinksToVisit .sequential 10,
      sink.cursorSequence = 2 ∧ sink.cursorSequence < (resumed.tables.audit.headOf sink.tenantID).1 ∧
      ∀ d ∈ resumed.tables.siem.deliveries, d.key ≠ sink.nextRange (resumed.tables.audit.headOf sink.tenantID).1 := by
    decide +kernel
  obtain ⟨d, hd, -, -, hopen, hfrom⟩ := (open_batch_iff_range_free ⟨rfl, rfl, by decide⟩ reached_resumed hok sink
    hvisit hbehind).mpr fun d hd _ _ ↦ hfree d hd
  exact ⟨by decide +kernel, db', hok, hlength, d, hd, hopen, by rw [hfrom, hcursor]; rfl⟩

/-- A sink, and an event to export. -/
def firstSteps : List SignalStep :=
  [.createSink (noon "a") "ten_1" "https://siem.example" [2], .audit (.record (tenthDay "b") [routeUpdated] true)]

def behind : SignalSystem := (SignalSystem.initial oldTables).performAll plainSecrets .standard firstSteps

theorem reached_behind : Reached plainSecrets .standard oldTables behind :=
  Reached.initial.performAll ⟨trivial, fresh_tenthDay "b" (by decide +kernel), trivial⟩

/-- One attempt: a worker claims what is due, and the sink refuses it. -/
def refusedAttempt (hour : Int) : List SignalStep :=
  [.claimSIEM "wrk_1" 10 (hour * (60 * minute)),
    .recordSIEM 0 ⟨hour * (60 * minute), fun _ n ↦ formatInt (hour + n), false, fun _ _ _ ↦ none⟩ ⟨503, [], false, ""⟩ none]

/-- The event is in a batch that is refused five times. -/
def refusedSteps : List SignalStep :=
  [.readSinks .sequential 10, .buildBatch 0, .insertBatch 0 (noon "a")] ++ [13, 14, 15, 16, 17].flatMap refusedAttempt

def refused : SignalSystem := behind.performAll plainSecrets .standard refusedSteps

theorem reached_refused : Reached plainSecrets .standard oldTables refused :=
  reached_behind.performAll ⟨trivial, trivial, trivial, trivial, trivial, trivial, trivial, trivial, trivial, trivial,
    trivial, trivial, trivial, trivial⟩

/-- After the fifth attempt the batch has failed. The next call visits the sink, whose cursor is below the head,
proposes the batch again and leaves nothing scheduled or in progress. -/
theorem nothing_open_after_failed_batch :
    Reached plainSecrets .standard oldTables refused ∧
      ∃ db', enqueueSIEMDeliveries (fun _ ↦ noon "d") .sequential 10 refused.tables = .ok db' ∧
        ∃ sink ∈ refused.tables.sinksToVisit .sequential 10,
          sink.cursorSequence < (refused.tables.audit.headOf sink.tenantID).1 ∧
            ∀ d ∈ db'.siem.deliveries, openState d.state = false :=
  ⟨reached_refused, by decide +kernel⟩

end Webhookery.Signals
