import Webhookery.Audit.Statements
import Webhookery.Audit.Verification

/-!
# Backfill against retention

A backfill inserts entries for events that it read some statements before, and a retention run deletes events
whose entries it looked for some statements before. Neither sees what the other has not committed, and the
retention run takes the lock of the head row only after its deletions. An event that one of them has read and
the other is deleting ends up with an active entry and no row.

While no event is on both sides at once, every entry that is not a tombstone has its event.
-/

namespace Webhookery.Audit

open Go Relational Store AuditTables Concurrency

variable {crypto : Crypto} {env : Env} {db : AuditTables} {others : List AuditTx}

/-! ## What pending writes change -/

section PendingWrites

variable {entry e : AuditChainEntry} {event x : AuditEvent}

/-- What no single write changes, a list of them does not. -/
theorem foldl_frame {α β : Type} {put : AuditTables → α → AuditTables} {f : AuditTables → β}
    (h : ∀ db x, f (put db x) = f db) (xs : List α) (db : AuditTables) : f (xs.foldl put db) = f db := by
  induction xs generalizing db with
  | nil => rfl
  | cons _ _ ih => rw [List.foldl_cons, ih, h]

theorem events_putEntry (db : AuditTables) (entry : AuditChainEntry) : (putEntry db entry).events = db.events := by
  unfold putEntry
  split <;> rfl

theorem entries_putEvent (db : AuditTables) (event : AuditEvent) : (putEvent db event).entries = db.entries := by
  unfold putEvent
  split <;> rfl

theorem sameChains_putHead (db : AuditTables) (head : AuditChainHead) : SameChains db (putHead db head) := by
  unfold putHead
  split <;> exact ⟨rfl, rfl⟩

theorem sameChains_putLease (db : AuditTables) (lease : WorkerLease) : SameChains db (putLease db lease) := by
  unfold putLease
  split <;> exact ⟨rfl, rfl⟩

theorem mem_putEntry (h : e ∈ (putEntry db entry).entries) : e ∈ db.entries ∨ e = entry := by
  unfold putEntry at h
  split at h
  case h_1 hinsert => exact (Table.mem_insert? hinsert).mp h
  case h_2 => exact .inl h

theorem mem_putEntry_of_mem (h : e ∈ db.entries) : e ∈ (putEntry db entry).entries := by
  unfold putEntry
  split
  case h_1 hinsert => exact (Table.mem_insert? hinsert).mpr (.inl h)
  case h_2 => exact h

theorem mem_putEvent (h : x ∈ (putEvent db event).events) : x ∈ db.events ∨ x = event := by
  unfold putEvent at h
  split at h
  case h_1 hinsert => exact (Table.mem_insert? hinsert).mp h
  case h_2 => exact .inl h

theorem mem_putEvent_of_mem (h : x ∈ db.events) : x ∈ (putEvent db event).events := by
  unfold putEvent
  split
  case h_1 hinsert => exact (Table.mem_insert? hinsert).mpr (.inl h)
  case h_2 => exact h

/-- An event with an identifier of its own is inserted. -/
theorem mem_putEvent_self (h : ∀ x ∈ db.events, x.id ≠ event.id) : event ∈ (putEvent db event).events := by
  have hfits : db.events.Fits event := ⟨h, fun _ _ ↦ .inl rfl⟩
  obtain ⟨_, hinsert⟩ := Table.exists_insert? hfits
  unfold putEvent
  rw [hinsert]
  exact (Table.mem_insert? hinsert).mpr (.inr rfl)

theorem mem_foldl_putEntry {entries : List AuditChainEntry} (h : e ∈ (entries.foldl putEntry db).entries) :
    e ∈ db.entries ∨ e ∈ entries := by
  induction entries generalizing db with
  | nil => exact .inl h
  | cons _ _ ih =>
    rcases ih h with h | h
    · apply (mem_putEntry h).imp_right
      intro heq
      rw [heq]
      exact List.mem_cons_self
    · exact .inr (List.mem_cons_of_mem _ h)

theorem BackfillTx.events_view (b : BackfillTx) (db : AuditTables) : (b.view db).events = db.events := by
  rw [BackfillTx.view, foldl_frame (sameChains_putHead · · |>.events), foldl_frame events_putEntry,
    foldl_frame (sameChains_putLease · · |>.events)]

theorem BackfillTx.mem_entries_view {b : BackfillTx} (h : e ∈ (b.view db).entries) :
    e ∈ db.entries ∨ e ∈ b.entries := by
  rw [BackfillTx.view, foldl_frame (sameChains_putHead · · |>.entries)] at h
  have hput := mem_foldl_putEntry h
  rwa [foldl_frame (sameChains_putLease · · |>.entries)] at hput

namespace RetentionTx

variable {r : RetentionTx}

theorem entries_view : (r.view db).entries =
    (r.entry.toList.foldl putEntry (r.event.toList.foldl putEvent (r.retire db))).entries :=
  foldl_frame (sameChains_putHead · · |>.entries) _ _

theorem events_view : (r.view db).events = (r.event.toList.foldl putEvent (r.retire db)).events := by
  rw [RetentionTx.view, foldl_frame (sameChains_putHead · · |>.events), foldl_frame events_putEntry]

theorem mem_entries_view (h : e ∈ (r.view db).entries) :
    (∃ e₀ ∈ db.entries, r.tombstone e₀ = e) ∨ r.entry = some e := by
  rw [entries_view] at h
  rcases mem_foldl_putEntry h with h | h
  · rw [foldl_frame entries_putEvent] at h
    exact .inl (List.mem_map.mp h)
  · exact .inr (Option.mem_toList.mp h)

/-- No entry disappears. -/
theorem tombstone_mem_view (h : e ∈ db.entries) : r.tombstone e ∈ (r.view db).entries := by
  have hretired : r.tombstone e ∈ (r.event.toList.foldl putEvent (r.retire db)).entries := by
    rw [foldl_frame entries_putEvent]
    exact List.mem_map_of_mem h
  rw [entries_view]
  cases r.entry with
  | none => exact hretired
  | some => exact mem_putEntry_of_mem hretired

theorem mem_events_view (h : event ∈ (r.view db).events) : event ∈ db.events ∨ r.event = some event := by
  rw [events_view] at h
  cases hevent : r.event with
  | none =>
    rw [hevent] at h
    exact .inl (Table.mem_delete.mp h).1
  | some =>
    rw [hevent] at h
    rcases mem_putEvent h with h | rfl
    · exact .inl (Table.mem_delete.mp h).1
    · exact .inr rfl

/-- An event that is not deleted stays. -/
theorem mem_events_view_of_mem (h : event ∈ db.events)
    (hkept : event.tenantID = r.policy.tenantID → event.id ∉ r.deleted) : event ∈ (r.view db).events := by
  have hretired : event ∈ (r.retire db).events := Table.mem_delete.mpr ⟨h, by simpa using hkept⟩
  rw [events_view]
  cases r.event with
  | none => exact hretired
  | some => exact mem_putEvent_of_mem hretired

end RetentionTx

end PendingWrites

/-! ## Open transactions -/

/-- The events that a backfill goes on to insert entries for. -/
def BackfillStage.pending : BackfillStage → List AuditEvent
  | .insertEntries _ _ _ events _ => events
  | _ => []

/-- The event that a retention run is recording. -/
def RetentionStage.recording : RetentionStage → Option AuditEvent
  | .insertHead event => some event
  | .lockHead event => some event
  | .insertEntry event _ _ => some event
  | _ => none

/-- The retention run is still deleting. -/
def RetentionStage.deleting : RetentionStage → Bool
  | .select | .update _ | .delete _ _ | .insertEvent => true
  | _ => false

/-- What a backfill has read is there, and its entries are those of events that it has read. -/
structure BackfillTx.Sound (b : BackfillTx) (db : AuditTables) : Prop where
  read : ∀ event ∈ b.read, event ∈ db.events
  pending : ∀ event ∈ b.stage.pending, event ∈ b.read
  entries : ∀ entry ∈ b.entries, ∃ event ∈ b.read, isEntryOf event entry = true

/-- A retention run turns into tombstones the entries of what it deletes, and its entry is that of its own
event. -/
structure RetentionTx.Sound (r : RetentionTx) (db : AuditTables) : Prop where
  marked : ∀ entry ∈ db.entries, entry.state ≠ .retained → entry.tenantID = r.policy.tenantID →
    entry.auditEventID ∈ r.marked → (entry.tenantID, entry.sequence) ∈ r.tombstones
  deleted : ∀ id ∈ r.deleted, id ∈ r.marked
  deleting : ∀ id rest, r.stage = .delete id rest → id ∈ r.marked
  named : ∀ event, r.event = some event → event.id ≠ ""
  recording : ∀ event, r.stage.recording = some event → r.event = some event
  unrecorded : r.stage.deleting = true → r.entry = none
  entry : ∀ entry, r.entry = some entry → ∃ event, r.event = some event ∧ isEntryOf event entry = true

theorem pending_nextTenant (tenantIDs : List String) (remaining : Nat) :
    (nextTenant tenantIDs remaining).pending = [] := by
  unfold nextTenant
  split <;> rfl

/-- A statement that neither reads events nor inserts an entry. -/
theorem BackfillTx.Sound.moved {b : BackfillTx} (h : b.Sound db) {now : Time} {stage : BackfillStage}
    {lease : Option WorkerLease} {heads : List AuditChainHead} {locked : List String} (hpending : stage.pending = []) :
    BackfillTx.Sound { b with now, stage, lease, heads, locked } db where
  read := h.read
  pending := by
    rw [hpending]
    exact nofun
  entries := h.entries

theorem BackfillTx.Sound.goes {b b' : BackfillTx} (h : b.Sound db)
    (hgoes : b.statement crypto env db others = .goes b') :
    b'.Sound db ∧ b'.read = b.read ++ (AuditTx.backfill b).reads db := by
  cases hstage : b.stage <;> simp only [BackfillTx.statement, hstage] at hgoes <;>
    simp only [AuditTx.reads, hstage, List.append_nil]
  case lease | insertHead | lockHead | commit =>
    repeat' split at hgoes
    all_goals cases hgoes
    all_goals exact ⟨h.moved rfl, rfl⟩
  case tenants =>
    cases hgoes
    exact ⟨h.moved (pending_nextTenant _ _), rfl⟩
  case select =>
    cases hgoes
    refine ⟨⟨?_, ?_, ?_⟩, rfl⟩
    · intro event hevent
      rcases List.mem_append.mp hevent with hevent | hevent
      · exact h.read event hevent
      · have hmem := (mem_unchainedEvents hevent).2.1
        rwa [b.events_view] at hmem
    · exact fun event hevent ↦ List.mem_append_right _ hevent
    · intro entry hentry
      obtain ⟨event, hevent, hof⟩ := h.entries entry hentry
      exact ⟨event, List.mem_append_left _ hevent, hof⟩
  case insertEntries events v =>
    cases events with
    | nil =>
      cases hgoes
      exact ⟨h.moved (pending_nextTenant _ _), rfl⟩
    | cons event events =>
      have hpending : ∀ e ∈ event :: events, e ∈ b.read := by
        have := h.pending
        rwa [hstage] at this
      dsimp only at hgoes
      split at hgoes
      · cases hgoes
      · cases hgoes
        refine ⟨⟨h.read, fun e he ↦ hpending e (List.mem_cons_of_mem _ he), ?_⟩, rfl⟩
        intro entry hentry
        dsimp only at hentry
        split at hentry
        · exact h.entries entry hentry
        · rcases List.mem_append.mp hentry with hentry | hentry
          · exact h.entries entry hentry
          · obtain rfl := List.mem_singleton.mp hentry
            exact ⟨event, hpending event List.mem_cons_self, isEntryOf_iff.mpr ⟨rfl, rfl⟩⟩

namespace RetentionTx

variable {r r' : RetentionTx}

/-- A statement that only moves on. -/
theorem Sound.moved (h : r.Sound db) {stage : RetentionStage} {heads : List AuditChainHead} {locked : List String}
    (hdeleting : ∀ id rest, stage ≠ .delete id rest)
    (hrecording : ∀ event, stage.recording = some event → r.event = some event)
    (hunrecorded : stage.deleting = true → r.stage.deleting = true) :
    RetentionTx.Sound { r with stage, heads, locked } db :=
  { h with
    deleting := fun id rest hstage ↦ absurd hstage (hdeleting id rest)
    recording := hrecording
    unrecorded := fun hstage ↦ h.unrecorded (hunrecorded hstage) }

/-- An entry that the transaction has not turned into a tombstone is seen as it is. -/
theorem tombstone_eq_self {entry : AuditChainEntry} (h : (entry.tenantID, entry.sequence) ∉ r.tombstones) :
    r.tombstone entry = entry := by
  unfold RetentionTx.tombstone
  rw [if_neg]
  simpa using h

/-- The `UPDATE` finds every entry of its event. -/
theorem Sound.update {id : String} {rest : List String} (h : r.Sound db) (hentry : r.entry = none) :
    RetentionTx.Sound { r with
      stage := .delete id rest
      marked := id :: r.marked
      tombstones := r.tombstones ++ ((r.view db).entries.rows.filter fun e ↦
        e.tenantID == r.policy.tenantID && e.auditEventID == id && e.state != .retained).map
          fun e ↦ (e.tenantID, e.sequence) } db where
  marked entry hentry hstate htenant hmarked := by
    by_cases hknown : (entry.tenantID, entry.sequence) ∈ r.tombstones
    · exact List.mem_append_left _ hknown
    · rcases List.mem_cons.mp hmarked with hid | hmarked
      · apply List.mem_append_right
        have hview := tombstone_mem_view (r := r) hentry
        rw [tombstone_eq_self hknown] at hview
        apply List.mem_map_of_mem
        apply List.mem_filter.mpr ⟨hview, _⟩
        simp [htenant, hid, hstate]
      · exact absurd (h.marked entry hentry hstate htenant hmarked) hknown
  deleted id' hid := List.mem_cons_of_mem _ (h.deleted id' hid)
  deleting id' rest' hstage := by
    obtain ⟨rfl, -⟩ := RetentionStage.delete.inj hstage
    exact List.mem_cons_self
  named := h.named
  recording event hevent := nomatch hevent
  unrecorded _ := hentry
  entry := h.entry

theorem Sound.goes (h : r.Sound db) (hgoes : r.statement crypto env db others = .goes r') :
    r'.Sound db ∧ (AuditTx.retention r').marked = (AuditTx.retention r).marks ++ (AuditTx.retention r).marked := by
  have hunrecorded := h.unrecorded
  have hrecorded := h.recording
  cases hstage : r.stage <;> rw [hstage] at hunrecorded hrecorded <;>
    simp only [RetentionTx.statement, hstage] at hgoes <;> simp only [AuditTx.marks, hstage]
  case select =>
    cases hgoes
    exact ⟨h.moved nofun nofun fun _ ↦ by rw [hstage]; rfl, rfl⟩
  case update ids =>
    cases ids with
    | nil =>
      cases hgoes
      exact ⟨h.moved nofun nofun fun _ ↦ by rw [hstage]; rfl, rfl⟩
    | cons =>
      dsimp only at hgoes
      split at hgoes
      · cases hgoes
      · cases hgoes
        exact ⟨h.update (hunrecorded rfl), rfl⟩
  case delete rest =>
    split at hgoes
    · cases hgoes
    · cases hgoes
      refine ⟨⟨h.marked, ?_, nofun, h.named, nofun, fun _ ↦ hunrecorded rfl, h.entry⟩, rfl⟩
      exact List.forall_mem_cons.mpr ⟨h.deleting _ rest hstage, h.deleted⟩
  case insertEvent =>
    split at hgoes
    · cases hgoes
    · cases hgoes
      refine ⟨⟨h.marked, h.deleted, nofun, ?_, fun _ hevent ↦ hevent, nofun, ?_⟩, rfl⟩
      · intro event hevent
        cases hevent
        exact env.mustID_ne_empty "aud" 0
      · intro entry hsome
        exact absurd ((hunrecorded rfl).symm.trans hsome) nofun
  case insertHead event | lockHead event =>
    repeat' split at hgoes
    all_goals cases hgoes
    all_goals exact ⟨h.moved nofun hrecorded nofun, rfl⟩
  case insertEntry event _ _ =>
    split at hgoes
    · cases hgoes
    · cases hgoes
      refine ⟨⟨h.marked, h.deleted, nofun, h.named, nofun, nofun, ?_⟩, rfl⟩
      intro entry hentry
      dsimp only at hentry
      split at hentry
      · exact h.entry entry hentry
      · cases hentry
        exact ⟨event, hrecorded event rfl, isEntryOf_iff.mpr ⟨rfl, rfl⟩⟩
  case updateHead =>
    cases hgoes
    exact ⟨h.moved nofun nofun nofun, rfl⟩
  case commit => cases hgoes

end RetentionTx

/-! ## Moves -/

/-- None of the events is among those with the given tenants and identifiers. -/
def apart (events : List AuditEvent) (ids : List (String × String)) : Bool :=
  events.all fun e ↦ !ids.contains (e.tenantID, e.id)

/-- Identifiers are random: that of an event which an open transaction has inserted is neither that of a
committed event nor of one that is being deleted. -/
def distinctIDs (w : Sessions AuditTables AuditTx) : Bool :=
  w.txs.all fun t ↦
    match t with
    | .backfill _ => true
    | .retention r => r.event.all fun event ↦
      (w.committed.events.rows.all fun x ↦ x.id != event.id) &&
        w.txs.all fun u ↦ u.marked.all fun id ↦ id.2 != event.id

/-- No event is read for a backfill while a retention run is deleting it, and none is deleted after a backfill
has read it and before that ends. -/
def disjoint (w : Sessions AuditTables AuditTx) : Move AuditTx Env → Bool
  | .advance i _ =>
    match w.txs[i]? with
    | some t => w.txs.all fun u ↦ apart (t.reads w.committed) u.marked && apart u.read t.marks
    | none => true
  | _ => true

theorem apart_iff {events : List AuditEvent} {ids : List (String × String)} :
    apart events ids = true ↔ ∀ e ∈ events, (e.tenantID, e.id) ∉ ids := by
  simp [apart]

/-- Every entry but a tombstone has its event, and events have identifiers. -/
structure Backed (db : AuditTables) : Prop where
  present : ∀ entry ∈ db.entries, entry.state ≠ .retained → ∃ event ∈ db.events, isEntryOf event entry = true
  named : ∀ event ∈ db.events, event.id ≠ ""

def AuditTx.Sound (db : AuditTables) : AuditTx → Prop
  | backfill b => b.Sound db
  | retention r => r.Sound db

/-- What one transaction has read, the other is not deleting. -/
def AuditTx.Apart (t u : AuditTx) : Prop := apart t.read u.marked = true

variable {w : Sessions AuditTables AuditTx} {r : RetentionTx} {b : BackfillTx} {event : AuditEvent}

/-- What the random identifiers of a transaction's own event are different from. -/
theorem distinctIDs_spec (h : distinctIDs w = true) (hr : .retention r ∈ w.txs) (hevent : r.event = some event) :
    (∀ x ∈ w.committed.events, x.id ≠ event.id) ∧ ∀ u ∈ w.txs, ∀ id ∈ u.marked, id.2 ≠ event.id := by
  have hall := List.all_eq_true.mp h _ hr
  simp only [hevent, Option.all_some, Bool.and_eq_true, List.all_eq_true, bne_iff_ne] at hall
  exact hall

theorem AuditTx.begins_spec {t : AuditTx} (db : AuditTables) (h : t.begins = true) :
    t.Sound db ∧ t.read = [] ∧ t.marked = [] := by
  cases t with
  | backfill b =>
    obtain ⟨_, _, _, _, _, _, _, _⟩ := b
    simp only [AuditTx.begins, Bool.and_eq_true, List.isEmpty_iff] at h
    obtain ⟨⟨⟨⟨⟨-, rfl⟩, -⟩, -⟩, rfl⟩, hstage⟩ := h
    split at hstage
    · refine ⟨⟨?_, ?_, ?_⟩, rfl, rfl⟩ <;> exact List.forall_mem_nil _
    · cases hstage
  | retention r =>
    obtain ⟨_, _, _, _, _, _, _, _, _, _, _, _⟩ := r
    simp only [AuditTx.begins, Bool.and_eq_true, List.isEmpty_iff, Option.isNone_iff_eq_none] at h
    obtain ⟨⟨⟨⟨⟨⟨⟨⟨-, rfl⟩, -⟩, rfl⟩, rfl⟩, rfl⟩, -⟩, -⟩, hstage⟩ := h
    split at hstage
    · refine ⟨⟨by simp, List.forall_mem_nil _, nofun, ?_, ?_, fun _ ↦ rfl, ?_⟩, rfl, rfl⟩ <;> rintro _ ⟨⟩
    · cases hstage

/-- What a backfill commits has its events. -/
theorem Backed.view_backfill (h : Backed db) (hb : b.Sound db) : Backed (b.view db) where
  present entry hentry hstate := by
    rw [b.events_view]
    rcases BackfillTx.mem_entries_view hentry with hentry | hentry
    · exact h.present entry hentry hstate
    · obtain ⟨event, hevent, hof⟩ := hb.entries entry hentry
      exact ⟨event, hb.read event hevent, hof⟩
  named := by
    rw [b.events_view]
    exact h.named

/-- An entry that is seen as no tombstone is unchanged. -/
theorem RetentionTx.tombstone_of_not_retained {entry : AuditChainEntry}
    (h : (r.tombstone entry).state ≠ .retained) :
    r.tombstone entry = entry ∧ (entry.tenantID, entry.sequence) ∉ r.tombstones := by
  by_cases hknown : (entry.tenantID, entry.sequence) ∈ r.tombstones
  · refine absurd ?_ h
    unfold RetentionTx.tombstone
    rw [if_pos (by simpa using hknown)]
    rfl
  · exact ⟨tombstone_eq_self hknown, hknown⟩

/-- A retention run that commits deletes the events of tombstones only. -/
theorem Backed.view_retention (h : Backed db) (hr : r.Sound db)
    (hfresh : ∀ event, r.event = some event → ∀ x ∈ db.events, x.id ≠ event.id) : Backed (r.view db) where
  present entry hentry hstate := by
    rcases RetentionTx.mem_entries_view hentry with ⟨e₀, he₀, rfl⟩ | hentry
    · obtain ⟨hself, hknown⟩ := RetentionTx.tombstone_of_not_retained hstate
      rw [hself] at hstate ⊢
      obtain ⟨event, hevent, hof⟩ := h.present e₀ he₀ hstate
      refine ⟨event, RetentionTx.mem_events_view_of_mem hevent ?_, hof⟩
      intro htenant hdeleted
      obtain ⟨hsame, hid⟩ := isEntryOf_iff.mp hof
      apply hknown
      apply hr.marked e₀ he₀ hstate (hsame.trans htenant)
      rw [hid]
      exact hr.deleted event.id hdeleted
    · obtain ⟨event, hevent, hof⟩ := hr.entry entry hentry
      refine ⟨event, ?_, hof⟩
      rw [RetentionTx.events_view, hevent]
      exact mem_putEvent_self fun x hx ↦ hfresh event hevent x (Table.mem_delete.mp hx).1
  named event hevent := by
    rcases RetentionTx.mem_events_view hevent with hevent | hevent
    · exact h.named event hevent
    · exact hr.named event hevent

/-- A backfill goes on when others commit, unless they delete what it has read. -/
theorem BackfillTx.Sound.mono (h : b.Sound db)
    (hkept : ∀ event ∈ b.read, event ∈ db.events → event ∈ db'.events) : b.Sound db' :=
  ⟨fun event hevent ↦ hkept event hevent (h.read event hevent), h.pending, h.entries⟩

/-- A retention run goes on when others commit, unless they insert entries of what it deletes. -/
theorem RetentionTx.Sound.mono (h : r.Sound db)
    (hnew : ∀ entry ∈ db'.entries, entry.state ≠ .retained → entry ∈ db.entries ∨
      (entry.tenantID, entry.auditEventID) ∉ (AuditTx.retention r).marked) : r.Sound db' := by
  refine { h with marked := fun entry hentry hstate htenant hmarked ↦ ?_ }
  rcases hnew entry hentry hstate with hold | hnot
  · exact h.marked entry hold hstate htenant hmarked
  · refine absurd ?_ hnot
    rw [htenant]
    exact List.mem_map_of_mem hmarked

theorem AuditTx.Sound.view_backfill {u : AuditTx} (h : u.Sound db) (hb : b.Sound db)
    (hapart : (AuditTx.backfill b).Apart u) : u.Sound (b.view db) := by
  cases u with
  | backfill =>
    apply BackfillTx.Sound.mono h
    rw [b.events_view]
    exact fun event _ hevent ↦ hevent
  | retention =>
    apply RetentionTx.Sound.mono h
    intro entry hentry _
    apply (BackfillTx.mem_entries_view hentry).imp_right
    intro hentry
    obtain ⟨event, hevent, hof⟩ := hb.entries entry hentry
    obtain ⟨htenant, hid⟩ := isEntryOf_iff.mp hof
    rw [htenant, hid]
    exact apart_iff.mp hapart event hevent

theorem AuditTx.Sound.view_retention {u : AuditTx} (h : u.Sound db) (hr : r.Sound db)
    (hapart : u.Apart (.retention r)) (hfresh : ∀ event, r.event = some event → ∀ id ∈ u.marked, id.2 ≠ event.id) :
    u.Sound (r.view db) := by
  cases u with
  | backfill =>
    apply BackfillTx.Sound.mono h
    intro event hread hevent
    apply RetentionTx.mem_events_view_of_mem hevent
    intro htenant hdeleted
    apply apart_iff.mp hapart event hread
    rw [htenant]
    exact List.mem_map_of_mem (hr.deleted event.id hdeleted)
  | retention =>
    apply RetentionTx.Sound.mono h
    intro entry hentry hstate
    rcases RetentionTx.mem_entries_view hentry with ⟨_, he₀, rfl⟩ | hentry
    · rw [(RetentionTx.tombstone_of_not_retained hstate).1]
      exact .inl he₀
    · right
      intro hmarked
      obtain ⟨event, hevent, hof⟩ := hr.entry entry hentry
      exact hfresh event hevent _ hmarked (isEntryOf_iff.mp hof).2

/-- Moves that keep what is read and what is deleted apart keep every entry backed. -/
theorem stable (crypto : Crypto) : (auditIsolation crypto).Stable
    (fun w m ↦ distinctIDs w = true ∧ disjoint w m = true) Backed AuditTx.Sound AuditTx.Apart where
  begins {w t} _ hbegins := by
    obtain ⟨hsound, hread, hmarked⟩ := AuditTx.begins_spec w.committed hbegins
    have hleft (u : AuditTx) : t.Apart u := apart_iff.mpr (by rw [hread]; exact nofun)
    have hright (u : AuditTx) : u.Apart t := apart_iff.mpr (by rw [hmarked]; exact fun _ _ ↦ List.not_mem_nil)
    exact ⟨hsound, hleft t, fun u _ ↦ ⟨hleft u, hright u⟩⟩
  goes {w i env t t'} h hallowed ht hgoes := by
    have hmem : t ∈ w.txs := List.mem_of_getElem? ht
    have hapart := hallowed.2
    simp only [disjoint, ht, List.all_eq_true, Bool.and_eq_true] at hapart
    have hspec : t'.Sound w.committed ∧ t'.read = t.read ++ t.reads w.committed ∧ t'.marked = t.marks ++ t.marked ∧
        t'.Apart t' := by
      cases t with
      | backfill =>
        obtain ⟨_, hb', rfl⟩ := Outcome.map_eq_goes.mp hgoes
        obtain ⟨hsound, hread⟩ := BackfillTx.Sound.goes (h.open_ _ hmem) hb'
        exact ⟨hsound, hread, rfl, apart_iff.mpr fun _ _ ↦ List.not_mem_nil⟩
      | retention =>
        obtain ⟨_, hr', rfl⟩ := Outcome.map_eq_goes.mp hgoes
        obtain ⟨hsound, hmarked⟩ := RetentionTx.Sound.goes (h.open_ _ hmem) hr'
        exact ⟨hsound, rfl, hmarked, apart_iff.mpr nofun⟩
    obtain ⟨hsound, hread, hmarked, hself⟩ := hspec
    refine ⟨hsound, hself, fun u hu ↦ ⟨apart_iff.mpr ?_, apart_iff.mpr ?_⟩⟩
    · intro e he
      rw [hread] at he
      rcases List.mem_append.mp he with he | he
      · exact apart_iff.mp (h.apart t hmem u hu) e he
      · exact apart_iff.mp (hapart u hu).1 e he
    · intro e he hid
      rw [hmarked] at hid
      rcases List.mem_append.mp hid with hid | hid
      · exact apart_iff.mp (hapart u hu).2 e he hid
      · exact apart_iff.mp (h.apart u hu t hmem) e he hid
  commits {w i env t} h hallowed ht _ := by
    have hmem : t ∈ w.txs := List.mem_of_getElem? ht
    cases t with
    | backfill =>
      have hb := h.open_ _ hmem
      exact ⟨h.committed.view_backfill hb,
        fun u hu ↦ (h.open_ u hu).view_backfill hb (h.apart _ hmem u hu)⟩
    | retention r =>
      have hr := h.open_ _ hmem
      have hids {event : AuditEvent} (hevent : r.event = some event) := distinctIDs_spec hallowed.1 hmem hevent
      refine ⟨h.committed.view_retention hr fun event hevent ↦ (hids hevent).1, fun u hu ↦ ?_⟩
      exact (h.open_ u hu).view_retention hr (h.apart u hu _ hmem) fun event hevent ↦ (hids hevent).2 u hu

/-! ## What the verifier reports -/

/-- The failure says that an event is missing. -/
def AuditChainFailure.missesEvent (failure : AuditChainFailure) : Bool := failure.kind == .missingAuditEvent

theorem missesEvent_missingEntries : (missingEntries n m).any AuditChainFailure.missesEvent = false := by
  simp [missingEntries, AuditChainFailure.missesEvent]

/-- The join finds the event of every entry but a tombstone. -/
theorem Backed.joinedEvent_id_ne (h : Backed db) (hentry : entry ∈ db.entries)
    (hstate : entry.state ≠ .retained) : (db.joinedEvent entry).id ≠ "" := by
  obtain ⟨event, hevent, hof⟩ := h.present entry hentry hstate
  have hsome : (db.events.rows.find? fun event ↦ isEntryOf event entry).isSome = true :=
    List.find?_isSome.mpr ⟨event, hevent, hof⟩
  obtain ⟨found, hfound⟩ := Option.isSome_iff_exists.mp hsome
  have hjoined : db.joinedEvent entry = found := by
    rw [joinedEvent, Table.find?, hfound]
    rfl
  rw [hjoined]
  exact h.named found (List.mem_of_find?_eq_some hfound)

theorem Backed.entryFailures (h : Backed db) (hentry : entry ∈ db.entries) :
    (entryFailures crypto db expectedSequence expectedPrevious entry).any AuditChainFailure.missesEvent = false := by
  have hif (p : Prop) [Decidable p] (failure : AuditChainFailure) (hkind : failure.missesEvent = false) :
      (if p then [failure] else []).any AuditChainFailure.missesEvent = false := by
    split <;> simp [hkind]
  simp only [Audit.entryFailures, List.any_append, Bool.or_eq_false_iff]
  refine ⟨⟨⟨⟨missesEvent_missingEntries, hif _ _ rfl⟩, hif _ _ rfl⟩, ?_⟩, hif _ _ rfl⟩
  by_cases hstate : entry.state = .retained
  · rw [if_pos hstate]
    split
    · rfl
    · exact hif _ _ rfl
  · rw [if_neg (h.joinedEvent_id_ne hentry hstate)]
    exact hif _ _ rfl

theorem Backed.walk (h : Backed db) {rows : List AuditChainEntry} {w : Walk} (hrows : ∀ e ∈ rows, e ∈ db.entries)
    (hw : w.result.failures.any AuditChainFailure.missesEvent = false) :
    (rows.foldl (checkEntry crypto db) w).result.failures.any AuditChainFailure.missesEvent = false := by
  induction rows generalizing w with
  | nil => exact hw
  | cons entry _ ih =>
    apply ih fun e he ↦ hrows e (List.mem_cons_of_mem _ he)
    simp only [checkEntry, AuditChainVerification.report, List.any_append, hw, Bool.false_or]
    exact h.entryFailures (hrows entry List.mem_cons_self)

/-- No event is reported as missing. -/
theorem Backed.verifyAuditChain (h : Backed db) (crypto : Crypto) (now : Time) (tenantID : String)
    (fromSequence toSequence : Int) :
    (verifyAuditChain crypto now tenantID fromSequence toSequence db).failures.any
      AuditChainFailure.missesEvent = false := by
  have hbegin (first : Int) (result : AuditChainVerification) (hresult : result.failures = []) :
      (beginWalk db tenantID first result).result.failures.any AuditChainFailure.missesEvent = false := by
    unfold beginWalk
    split
    · split <;> simp [AuditChainVerification.report, AuditChainFailure.missesEvent, hresult]
    · simp [hresult]
  have hrows (first last : Int) : ∀ e ∈ db.entriesBetween tenantID first last, e ∈ db.entries := by
    intro e he
    exact (mem_chainOf.mp (List.mem_filter.mp ((List.mem_insertionSort _).mp he)).1).1
  simp only [Audit.verifyAuditChain]
  generalize (if fromSequence ≤ 0 then 1 else fromSequence) = first
  generalize (if toSequence ≤ 0 ∨ (db.headOf tenantID).1 < toSequence then (db.headOf tenantID).1 else toSequence) =
    last
  split
  · rfl
  · rw [AuditChainVerification.report, List.any_append, missesEvent_missingEntries, Bool.or_false]
    exact h.walk (hrows _ _) (hbegin _ _ rfl)

/-- Every active entry has its event, and the verifier misses none, whatever range it is asked for. -/
def EventsPresent (crypto : Crypto) (db : AuditTables) : Prop :=
  (∀ entry ∈ db.entries, entry.state = .active → ∃ event ∈ db.events, isEntryOf event entry = true) ∧
    ∀ now tenantID fromSequence toSequence,
      ∀ failure ∈ (verifyAuditChain crypto now tenantID fromSequence toSequence db).failures,
        failure.kind ≠ .missingAuditEvent

theorem Backed.eventsPresent (h : Backed db) (crypto : Crypto) : EventsPresent crypto db := by
  constructor
  · intro entry hentry hactive
    apply h.present entry hentry
    rw [hactive]
    exact nofun
  · intro now tenantID fromSequence toSequence failure hfailure hkind
    have hnone := List.any_eq_false.mp (h.verifyAuditChain crypto now tenantID fromSequence toSequence)
    exact hnone failure hfailure (beq_iff_eq.mpr hkind)

/-- In runs that keep what is read and what is deleted apart. -/
theorem events_present {start : AuditTables} (hstart : start.Unchained)
    (h : (auditIsolation crypto).Run (fun w m ↦ distinctIDs w = true ∧ disjoint w m = true) start w) :
    EventsPresent crypto w.committed := by
  have hbacked : Backed start :=
    ⟨fun entry hentry ↦ absurd hentry (Table.not_mem_of_rows_eq_nil hstart.entries), hstart.named⟩
  exact ((stable crypto).run hbacked h).committed.eventsPresent crypto

/-! ## Two schedules -/

/-- Retention after one day, on the tenth. -/
def oneDay : AuditTx :=
  beginRetention (10 * (24 * 60 * minute)) .sequential "wrk_1" ⟨"ret_1", "ten_1", 1, false⟩

def backfillOfTenthDay : AuditTx := beginBackfill (10 * (24 * 60 * minute)) "wrk_2" 10

/-- The retention run looks for what has expired before the backfill reads the old event, and goes on when the
backfill has committed. -/
def passing : List (Move AuditTx Env) :=
  [.start backfillOfTenthDay, .start oneDay] ++
    List.replicate 4 (.advance 0 (tenthDay "b")) ++
    [.advance 1 (tenthDay "r")] ++
    List.replicate 4 (.advance 0 (tenthDay "b")) ++
    List.replicate 9 (.advance 0 (tenthDay "r"))

theorem events_present_passing :
    ∃ w, (auditIsolation .standard).execute (fun w m ↦ distinctIDs w && disjoint w m) passing ⟨oldTables, []⟩ =
      some w ∧ w.txs.length = 0 ∧
      w.committed.entries.rows.map (fun e ↦ (e.auditEventID, e.state)) =
        [("aud_old", .retained), ("aud_r", .active)] ∧ EventsPresent .standard w.committed := by
  have hends : ((auditIsolation .standard).execute (fun w m ↦ distinctIDs w && disjoint w m) passing
    ⟨oldTables, []⟩).isSome = true := by decide +kernel
  refine ⟨_, (Option.some_get hends).symm, ?_, ?_, events_present ⟨rfl, rfl, by decide⟩
    (Isolation.Run.start.execute (fun _ _ ↦ Bool.and_eq_true_iff.mp) (Option.some_get hends).symm)⟩
  all_goals decide +kernel +revert

/-- The backfill, session 0, reads the old event; the retention run, session 1, finds no entry of it and deletes
it; the backfill inserts the entry and commits before the run records itself. -/
def crossing : List (Move AuditTx Env) :=
  [.start backfillOfTenthDay, .start oneDay] ++
    List.replicate 5 (.advance 0 (tenthDay "b")) ++
    List.replicate 4 (.advance 1 (tenthDay "r")) ++
    List.replicate 3 (.advance 0 (tenthDay "b")) ++
    List.replicate 6 (.advance 0 (tenthDay "r"))

theorem event_missing_after_crossing :
    oldTables.Unchained ∧
      ∃ w, (auditIsolation .standard).Run (fun w _ ↦ distinctIDs w = true) oldTables w ∧ w.txs.length = 0 ∧
        (∃ entry ∈ w.committed.entries.rows, entry.state = .active ∧
          ∀ event ∈ w.committed.events.rows, isEntryOf event entry = false) ∧
        ∃ failure ∈ (verifyAuditChain .standard 0 "ten_1" 0 0 w.committed).failures,
          failure.kind = .missingAuditEvent := by
  have hends : ((auditIsolation .standard).execute (fun w _ ↦ distinctIDs w) crossing ⟨oldTables, []⟩).isSome =
    true := by decide +kernel
  refine ⟨⟨rfl, rfl, by decide⟩, _, Isolation.Run.start.execute (fun _ _ h ↦ h) (Option.some_get hends).symm, ?_⟩
  decide +kernel +revert

end Webhookery.Audit
