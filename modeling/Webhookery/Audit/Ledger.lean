import Webhookery.Audit.Tables

/-!
# The chain under its writers

Every writer extends the chain of a tenant at its head or turns entries into tombstones, so the entries stay
linked from the first to the one the head row names, whatever the order of the transactions. An event has one
entry at most; the event of an entry is there as long as the entry is no tombstone, and the entry carries its
hash, also when the event is gone.
-/

namespace Webhookery.Audit

open Go Relational Store AuditTables

variable {crypto : Crypto} {db db' : AuditTables} {tenantID : String} {event : AuditEvent} {env : Env}
  {entry : AuditChainEntry} {now : Time} {chainHash last : String} {sequence : Int}
  {events : List AuditEvent}

/-! ## What holds of the tables -/

/-- The entries of every tenant form a chain, and stand for the events they name. -/
structure Sound (crypto : Crypto) (db : AuditTables) : Prop where
  linked : ∀ tenantID, (links crypto).Linked 1 "" (db.chainOf tenantID)
  once : ∀ tenantID, ((db.chainOf tenantID).map AuditChainEntry.auditEventID).Nodup
  present : ∀ entry ∈ db.entries, entry.state ≠ .retained → ∃ event ∈ db.events, isEntryOf event entry = true
  hashed : ∀ entry ∈ db.entries, ∀ event ∈ db.events, isEntryOf event entry = true →
    entry.eventHash = eventHash crypto event
  attested : ∀ entry ∈ db.entries, ∃ event, isEntryOf event entry = true ∧ entry.eventHash = eventHash crypto event
  version : ∀ entry ∈ db.entries, entry.canonicalizationVersion = canonicalizationVersion
  named : ∀ event ∈ db.events, event.id ≠ ""

/-- A sequence number and a hash are where the chain of a tenant ends. -/
structure EndsAt (crypto : Crypto) (db : AuditTables) (tenantID : String) (sequence : Int) (chainHash : String) :
    Prop where
  sequence_eq : sequence = (db.chainOf tenantID).length
  chainHash_eq : chainHash = (links crypto).endHash "" (db.chainOf tenantID)

theorem EndsAt.congr (hend : EndsAt crypto db tenantID sequence chainHash)
    (h : db'.chainOf tenantID = db.chainOf tenantID) : EndsAt crypto db' tenantID sequence chainHash := by
  obtain ⟨hsequence, hhash⟩ := hend
  rw [← h] at hsequence hhash
  exact ⟨hsequence, hhash⟩

/-- The head row of every tenant is where its chain ends. -/
def HeadsSound (crypto : Crypto) (db : AuditTables) : Prop :=
  ∀ tenantID, EndsAt crypto db tenantID (db.headOf tenantID).1 (db.headOf tenantID).2

theorem mem_chainOf : entry ∈ db.chainOf tenantID ↔ entry ∈ db.entries ∧ entry.tenantID = tenantID := by
  rw [chainOf, List.mem_filter, beq_iff_eq, Table.mem_def]

theorem isEntryOf_iff :
    isEntryOf event entry = true ↔ entry.tenantID = event.tenantID ∧ entry.auditEventID = event.id := by
  rw [isEntryOf, Bool.and_eq_true, beq_iff_eq, beq_iff_eq]

theorem chained_iff : db.chained event = true ↔ ∃ entry ∈ db.entries, isEntryOf event entry = true :=
  List.any_eq_true

/-- No entry is lost: the entry of an event stays the entry of that event. -/
def Kept (db db' : AuditTables) : Prop := ∀ event, db.chained event = true → db'.chained event = true

/-- What no writer changes in an entry: all but the columns of its tombstone. -/
def AuditChainEntry.frame (entry : AuditChainEntry) : AuditChainEntry :=
  { entry with state := .active, auditEventDeletedAt := none, tombstoneReason := "" }

/-- Every entry stays, with what no writer changes. -/
def EntriesKept (db db' : AuditTables) : Prop :=
  ∀ entry ∈ db.entries, ∃ entry' ∈ db'.entries, entry'.frame = entry.frame

theorem EntriesKept.refl : EntriesKept db db := fun entry hentry ↦ ⟨entry, hentry, rfl⟩

theorem EntriesKept.trans (h : EntriesKept db db') (h' : EntriesKept db' db'') : EntriesKept db db'' := by
  intro entry hentry
  obtain ⟨entry', hentry', hframe⟩ := h entry hentry
  obtain ⟨entry'', hentry'', hframe'⟩ := h' entry' hentry'
  exact ⟨entry'', hentry'', hframe'.trans hframe⟩

/-- Entries with the same frame are entries of the same events. -/
theorem isEntryOf_of_frame_eq (h : entry'.frame = entry.frame) : isEntryOf event entry' = isEntryOf event entry := by
  have htenant : entry'.tenantID = entry.tenantID := (congrArg AuditChainEntry.tenantID h :)
  have hevent : entry'.auditEventID = entry.auditEventID := (congrArg AuditChainEntry.auditEventID h :)
  rw [isEntryOf, htenant, hevent]
  rfl

theorem EntriesKept.kept (h : EntriesKept db db') : Kept db db' := by
  intro event hevent
  obtain ⟨entry, hentry, hof⟩ := chained_iff.mp hevent
  obtain ⟨entry', hentry', hframe⟩ := h entry hentry
  exact chained_iff.mpr ⟨entry', hentry', (isEntryOf_of_frame_eq hframe).trans hof⟩

/-! ## Inserting an entry -/

/-- An entry as the table returns it. -/
def AuditChainEntry.stored (entry : AuditChainEntry) : AuditChainEntry :=
  { entry with createdAt := timestamptz entry.createdAt }

/-- The tables with one more entry. -/
structure Appended (entry : AuditChainEntry) (db db' : AuditTables) : Prop where
  rows : db'.entries.rows = db.entries.rows ++ [entry]
  events : db'.events = db.events
  heads : db'.heads = db.heads

theorem appended_of_insert
    (hnew : ∀ e ∈ db.entries, e.tenantID = entry.tenantID → e.auditEventID ≠ entry.auditEventID)
    (h : insertAuditChainEntry entry db = .ok db') : Appended entry.stored db db' := by
  have hany : (db.entries.rows.any fun e ↦ e.tenantID == entry.tenantID && e.auditEventID == entry.auditEventID)
      = false := by
    simpa [Table.mem_def] using hnew
  rw [insertAuditChainEntry, hany, if_neg Bool.false_ne_true, seq_eq_ok] at h
  obtain ⟨-, h⟩ := h
  obtain ⟨_, hinsert, h⟩ := bind_eq_ok.mp h
  cases h
  exact ⟨Table.rows_insert? (insertRow_eq_ok.mp hinsert), rfl, rfl⟩

section Appended

variable {entry : AuditChainEntry} {previous : String}

theorem Appended.mem (h : Appended entry db db') : e ∈ db'.entries ↔ e ∈ db.entries ∨ e = entry := by
  rw [Table.mem_def, h.rows, List.mem_append, List.mem_singleton, Table.mem_def]

theorem Appended.chainOf_self (h : Appended entry db db') :
    db'.chainOf entry.tenantID = db.chainOf entry.tenantID ++ [entry] := by
  simp [chainOf, h.rows]

theorem Appended.chainOf_other (h : Appended entry db db') (hne : entry.tenantID ≠ tenantID) :
    db'.chainOf tenantID = db.chainOf tenantID := by
  simp [chainOf, h.rows, hne]

/-- An entry continues a chain that ends at a number and a hash, and stands for an event. -/
structure Continues (crypto : Crypto) (sequence : Int) (previous : String) (event : AuditEvent)
    (entry : AuditChainEntry) : Prop where
  tenantID : entry.tenantID = event.tenantID
  auditEventID : entry.auditEventID = event.id
  eventHash : entry.eventHash = Audit.eventHash crypto event
  version : entry.canonicalizationVersion = canonicalizationVersion
  linked : (links crypto).Linked (1 + sequence) previous [entry]

/-- The entry that is computed at the end of a chain continues it: the first entry has no previous hash, and
none was there. -/
theorem continues_computeEntry {id source : String} {createdAt : Time}
    (hend : EndsAt crypto db tenantID sequence previous) :
    Continues crypto sequence previous event
      (computeEntry crypto id event (sequence + 1) previous source createdAt).stored := by
  have hprevious : previousHashForSequence (sequence + 1) previous = previous := by
    unfold previousHashForSequence
    split
    case isTrue =>
      have hnil : db.chainOf tenantID = [] := by
        apply List.eq_nil_of_length_eq_zero
        have hsequence := hend.sequence_eq
        omega
      rw [hend.chainHash_eq, hnil]
      rfl
    case isFalse => rfl
  refine ⟨rfl, rfl, rfl, rfl, ?_, ?_, ?_, trivial⟩
  · exact add_comm sequence 1
  · exact hprevious
  · exact congrArg (chainHash crypto · (eventHash crypto event)) hprevious

theorem Appended.endsAt (h : Appended entry db db')
    (hcontinues : Continues crypto sequence previous event entry)
    (hend : EndsAt crypto db event.tenantID sequence previous) :
    EndsAt crypto db' event.tenantID (sequence + 1) entry.chainHash := by
  rw [← hcontinues.tenantID] at hend ⊢
  refine ⟨?_, ?_⟩
  · rw [h.chainOf_self, List.length_append, List.length_singleton, hend.sequence_eq]
    push_cast
    rfl
  · rw [h.chainOf_self, Links.endHash_concat]
    rfl

/-- An entry for an event without one, at the end of the chain, leaves the tables sound. -/
theorem Sound.append (h : Sound crypto db) (happ : Appended entry db db')
    (hend : EndsAt crypto db event.tenantID sequence previous)
    (hcontinues : Continues crypto sequence previous event entry) (hevent : event ∈ db.events)
    (hnew : db.chained event = false) : Sound crypto db' := by
  have hof : isEntryOf event entry = true := isEntryOf_iff.mpr ⟨hcontinues.tenantID, hcontinues.auditEventID⟩
  constructor
  case linked =>
    intro tenantID
    by_cases htenant : entry.tenantID = tenantID
    · subst htenant
      rw [happ.chainOf_self, Links.linked_append]
      refine ⟨h.linked _, ?_⟩
      rw [hcontinues.tenantID, ← hend.sequence_eq, ← hend.chainHash_eq]
      exact hcontinues.linked
    · rw [happ.chainOf_other htenant]
      exact h.linked tenantID
  case once =>
    intro tenantID
    by_cases htenant : entry.tenantID = tenantID
    · subst htenant
      rw [happ.chainOf_self, List.map_append, List.map_singleton, List.nodup_append]
      refine ⟨h.once _, List.nodup_singleton _, ?_⟩
      intro id hid id' hid' heq
      obtain ⟨e, he, rfl⟩ := List.mem_map.mp hid
      obtain ⟨hentry, htenant⟩ := mem_chainOf.mp he
      have hsame : isEntryOf event e = true := by
        rw [isEntryOf_iff, htenant, heq, List.mem_singleton.mp hid']
        exact ⟨hcontinues.tenantID, hcontinues.auditEventID⟩
      have hchained := chained_iff.mpr ⟨e, hentry, hsame⟩
      rw [hnew] at hchained
      exact Bool.false_ne_true hchained
    · rw [happ.chainOf_other htenant]
      exact h.once tenantID
  case present =>
    intro e he hstate
    rw [happ.events]
    rcases happ.mem.mp he with he | rfl
    · exact h.present e he hstate
    · exact ⟨event, hevent, hof⟩
  case hashed =>
    intro e he event' hevent' hof'
    rw [happ.events] at hevent'
    rcases happ.mem.mp he with he | rfl
    · exact h.hashed e he event' hevent' hof'
    · have hid : event.id = event'.id := hcontinues.auditEventID.symm.trans (isEntryOf_iff.mp hof').2
      obtain rfl := Table.eq_of_key_eq hevent hevent' hid
      exact hcontinues.eventHash
  case attested =>
    intro e he
    rcases happ.mem.mp he with he | rfl
    · exact h.attested e he
    · exact ⟨event, hof, hcontinues.eventHash⟩
  case version =>
    intro e he
    rcases happ.mem.mp he with he | rfl
    · exact h.version e he
    · exact hcontinues.version
  case named =>
    rw [happ.events]
    exact h.named

theorem Appended.chained (happ : Appended entry db db') (hcontinues : Continues crypto sequence previous event entry)
    (hne : event'.id ≠ event.id) : db'.chained event' = db.chained event' := by
  have hother : isEntryOf event' entry = false := by
    rw [Bool.eq_false_iff, Ne, isEntryOf_iff, hcontinues.auditEventID]
    exact fun h ↦ hne h.2.symm
  rw [AuditTables.chained, happ.rows, List.any_append, List.any_cons, List.any_nil, hother, Bool.or_false,
    Bool.or_false]
  rfl

theorem Appended.kept (h : Appended entry db db') : EntriesKept db db' :=
  fun e he ↦ ⟨e, h.mem.mpr (.inl he), rfl⟩

/-- The tables after a chain was continued for an event, up to a number and a hash. -/
structure Grown (crypto : Crypto) (event : AuditEvent) (sequence : Int) (chainHash : String)
    (db db' : AuditTables) : Prop where
  sound : Sound crypto db'
  endsAt : EndsAt crypto db' event.tenantID sequence chainHash
  others : ∀ {tenantID : String} {s : Int} {h : String}, tenantID ≠ event.tenantID →
    EndsAt crypto db tenantID s h → EndsAt crypto db' tenantID s h
  events : db'.events = db.events
  heads : db'.heads = db.heads
  kept : EntriesKept db db'
  chained : db'.chained event = true
  unchained : ∀ {event' : AuditEvent}, event'.id ≠ event.id → db'.chained event' = db.chained event'
  names : ∀ e ∈ db'.entries, e ∈ db.entries ∨ e.auditEventID = event.id

/-- Inserting the entry that is computed for an event at the end of the chain of its tenant. -/
theorem grown_of_insert {id source : String} {createdAt : Time}
    (hsound : Sound crypto db) (hend : EndsAt crypto db event.tenantID sequence previous)
    (hevent : event ∈ db.events) (hnew : db.chained event = false)
    (h : insertAuditChainEntry (computeEntry crypto id event (sequence + 1) previous source createdAt) db = .ok db') :
    Grown crypto event (sequence + 1)
      (computeEntry crypto id event (sequence + 1) previous source createdAt).chainHash db db' := by
  generalize hentry : computeEntry crypto id event (sequence + 1) previous source createdAt = entry at h
  have hcontinues : Continues crypto sequence previous event entry.stored := by
    rw [← hentry]
    exact continues_computeEntry hend
  have hunused : ∀ e ∈ db.entries, e.tenantID = entry.tenantID → e.auditEventID ≠ entry.auditEventID := by
    intro e he htenant hid
    have hof : isEntryOf event e = true :=
      isEntryOf_iff.mpr ⟨htenant.trans hcontinues.tenantID, hid.trans hcontinues.auditEventID⟩
    exact Bool.false_ne_true (hnew.symm.trans (chained_iff.mpr ⟨e, he, hof⟩))
  have happ := appended_of_insert hunused h
  exact { happ with
    sound := hsound.append happ hend hcontinues hevent hnew
    endsAt := happ.endsAt hcontinues hend
    others := fun hne hend ↦
      hend.congr (happ.chainOf_other fun heq ↦ hne (heq.symm.trans hcontinues.tenantID))
    kept := happ.kept
    chained := chained_iff.mpr ⟨_, happ.mem.mpr (.inr rfl),
      isEntryOf_iff.mpr ⟨hcontinues.tenantID, hcontinues.auditEventID⟩⟩
    unchained := happ.chained hcontinues
    names := fun e he ↦ (happ.mem.mp he).imp_right fun (heq : e = entry.stored) ↦
      heq ▸ hcontinues.auditEventID }

end Appended

/-! ## Head rows -/

/-- Tables that differ in their head rows and leases only. -/
structure SameChains (db db' : AuditTables) : Prop where
  events : db'.events = db.events
  entries : db'.entries = db.entries

theorem chainOf_congr (h : db'.entries = db.entries) : db'.chainOf tenantID = db.chainOf tenantID := by
  rw [chainOf, h]
  rfl

theorem SameChains.sound (h : SameChains db db') (hsound : Sound crypto db) : Sound crypto db' := by
  obtain ⟨events, entries, _, _⟩ := db'
  obtain ⟨rfl, rfl⟩ : events = db.events ∧ entries = db.entries := ⟨h.events, h.entries⟩
  exact { hsound with }

/-- The head row is read, or begins a chain without changing what is read. -/
structure Ensured (tenantID : String) (sequence : Int) (chainHash : String) (db db' : AuditTables) : Prop
    extends SameChains db db' where
  read : db.headOf tenantID = (sequence, chainHash)
  heads : ∀ tenantID, db'.headOf tenantID = db.headOf tenantID
  row : ∃ head ∈ db'.heads, head.tenantID = tenantID

theorem ensured_of_eq_ok (h : ensureAuditChainHead now tenantID db = .ok (sequence, chainHash, db')) :
    Ensured tenantID sequence chainHash db db' := by
  unfold ensureAuditChainHead at h
  split at h
  case h_1 head hfind =>
    obtain ⟨rfl, rfl, rfl⟩ : head.sequence = sequence ∧ head.chainHash = chainHash ∧ db = db' := by
      simpa using h
    have hmem := List.mem_of_find?_eq_some hfind
    have htenant := List.find?_some hfind
    exact ⟨⟨rfl, rfl⟩, by rw [headOf, hfind], fun _ ↦ rfl, head, hmem, beq_iff_eq.mp htenant⟩
  case h_2 hfind =>
    obtain ⟨_, hinsert, h⟩ := bind_eq_ok.mp h
    obtain ⟨rfl, hrest⟩ := Prod.mk.inj (Except.ok.inj h)
    cases hrest
    have hrows := Table.rows_insert? (insertRow_eq_ok.mp hinsert)
    refine ⟨⟨rfl, rfl⟩, by rw [headOf, hfind], fun tenantID' ↦ ?_, ?_⟩
    · simp only [headOf, Table.find?, hrows, List.find?_append]
      by_cases htenant : tenantID = tenantID'
      · subst htenant
        rw [show db.heads.rows.find? _ = none from hfind]
        simp
      · simp [htenant]
    · exact ⟨_, (Table.mem_insert? (insertRow_eq_ok.mp hinsert)).mpr (.inr rfl), rfl⟩

theorem sameChains_updateHead :
    SameChains db (updateHead now tenantID sequence chainHash last db) := ⟨rfl, rfl⟩

theorem find?_updateHead (tenantID' : String) :
    ((updateHead now tenantID sequence chainHash last db).heads.find? fun h ↦ h.tenantID == tenantID') =
      (db.heads.find? fun h ↦ h.tenantID == tenantID').map fun h ↦
        if h.tenantID = tenantID then ⟨tenantID, sequence, chainHash, last, timestamptz now⟩ else h :=
  Table.find?_replace (fun _ _ ↦ rfl) tenantID'

theorem headOf_updateHead_self (hrow : ∃ head ∈ db.heads, head.tenantID = tenantID) :
    (updateHead now tenantID sequence chainHash last db).headOf tenantID = (sequence, chainHash) := by
  obtain ⟨head, hhead, htenant⟩ := hrow
  have hfind : (db.heads.find? fun h ↦ h.tenantID == tenantID) = some head :=
    Table.find?_eq_some hhead (beq_iff_eq.mpr htenant) fun r hr htenant' ↦
      Table.eq_of_key_eq hr hhead ((beq_iff_eq.mp htenant').trans htenant.symm)
  rw [headOf, find?_updateHead, hfind, Option.map_some, if_pos htenant]

theorem headOf_updateHead_other (hne : tenantID' ≠ tenantID) :
    (updateHead now tenantID sequence chainHash last db).headOf tenantID' = db.headOf tenantID' := by
  rw [headOf, headOf, find?_updateHead]
  cases hfind : db.heads.find? fun h ↦ h.tenantID == tenantID' with
  | none => rfl
  | some head =>
    have hhead := List.find?_some hfind
    have htenant : head.tenantID = tenantID' := beq_iff_eq.mp hhead
    rw [Option.map_some, if_neg (htenant.symm ▸ hne)]

theorem kept_of_entries_eq (h : db'.entries = db.entries) : EntriesKept db db' := by
  intro entry hentry
  rw [h]
  exact ⟨entry, hentry, rfl⟩

/-- Sound tables whose head rows are where the chains end. -/
structure Intact (crypto : Crypto) (db : AuditTables) : Prop extends Sound crypto db where
  heads : HeadsSound crypto db

theorem HeadsSound.congr (h : HeadsSound crypto db) (hentries : db'.entries = db.entries)
    (hheads : ∀ tenantID, db'.headOf tenantID = db.headOf tenantID) : HeadsSound crypto db' := by
  intro tenantID
  rw [hheads]
  exact (h tenantID).congr (chainOf_congr hentries)

theorem Ensured.intact (h : Ensured tenantID sequence chainHash db db')
    (hintact : Intact crypto db) : Intact crypto db' :=
  ⟨h.sound hintact.toSound, hintact.heads.congr h.entries h.heads⟩

/-- What was read from the head row is where the chain ends. -/
theorem Ensured.endsAt (h : Ensured tenantID sequence chainHash db db')
    (hintact : Intact crypto db) : EndsAt crypto db' tenantID sequence chainHash := by
  have hend := hintact.heads tenantID
  rw [h.read] at hend
  exact hend.congr (chainOf_congr h.entries)

/-- A chain that was extended beyond its head row is intact once the row is updated. -/
theorem Sound.intact_updateHead (h : Sound crypto db)
    (hrow : ∃ head ∈ db.heads, head.tenantID = tenantID) (hend : EndsAt crypto db tenantID sequence chainHash)
    (hothers : ∀ tenantID', tenantID' ≠ tenantID →
      EndsAt crypto db tenantID' (db.headOf tenantID').1 (db.headOf tenantID').2) :
    Intact crypto (updateHead now tenantID sequence chainHash last db) := by
  refine ⟨sameChains_updateHead.sound h, fun tenantID' ↦ .congr (?_ : EndsAt _ db ..) rfl⟩
  by_cases htenant : tenantID' = tenantID
  · subst htenant
    rw [headOf_updateHead_self hrow]
    exact hend
  · rw [headOf_updateHead_other htenant]
    exact hothers tenantID' htenant

theorem headOf_congr (h : db'.heads = db.heads) : db'.headOf tenantID = db.headOf tenantID := by
  rw [headOf, h]
  rfl

/-! ## Recording -/

/-- An identifier that is generated next names no entry whose event is gone: random identifiers do not come
back. -/
def Guarded (env : Env) (db : AuditTables) : Prop :=
  ∀ entry ∈ db.entries, (∀ n, entry.auditEventID ≠ env.mustID "aud" n) ∨
    ∃ event ∈ db.events, event.id = entry.auditEventID

/-- The tables with one more event. -/
structure EventAdded (event : AuditEvent) (db db' : AuditTables) : Prop where
  events : ∀ {e : AuditEvent}, e ∈ db'.events ↔ e ∈ db.events ∨ e = event
  unused : ∀ e ∈ db.events, e.id ≠ event.id
  entries : db'.entries = db.entries
  heads : db'.heads = db.heads

theorem eventAdded_of_insert (h : insertAuditEvent event db = .ok db') : EventAdded event db db' := by
  rw [insertAuditEvent, seq_eq_ok] at h
  obtain ⟨-, h⟩ := h
  obtain ⟨_, hinsert, hok⟩ := bind_eq_ok.mp h
  cases hok
  have hinsert := insertRow_eq_ok.mp hinsert
  exact ⟨Table.mem_insert? hinsert, (Table.fits_of_insert? hinsert).1, rfl, rfl⟩

theorem EventAdded.sound (h : EventAdded event db db') (hne : event.id ≠ "")
    (hnew : ∀ entry ∈ db.entries, entry.auditEventID ≠ event.id) (hsound : Sound crypto db) :
    Sound crypto db' := by
  obtain ⟨_, entries, _, _⟩ := db'
  obtain rfl : entries = db.entries := h.entries
  refine { hsound with
    present := fun entry hentry hstate ↦ ?_
    hashed := fun entry hentry e he hof ↦ ?_
    named := fun e he ↦ ?_ }
  · obtain ⟨e, he, hof⟩ := hsound.present entry hentry hstate
    exact ⟨e, h.events.mpr (.inl he), hof⟩
  · rcases h.events.mp he with he | rfl
    · exact hsound.hashed entry hentry e he hof
    · exact absurd (isEntryOf_iff.mp hof).2 (hnew entry hentry)
  · rcases h.events.mp he with he | rfl
    · exact hsound.named e he
    · exact hne

theorem EventAdded.intact (h : EventAdded event db db') (hne : event.id ≠ "")
    (hnew : ∀ entry ∈ db.entries, entry.auditEventID ≠ event.id) (hintact : Intact crypto db) :
    Intact crypto db' :=
  ⟨h.sound hne hnew hintact.toSound, hintact.heads.congr h.entries fun _ ↦ headOf_congr h.heads⟩

/-- What recording an event achieves. -/
structure Recorded (crypto : Crypto) (env : Env) (event : AuditEvent) (db db' : AuditTables) : Prop where
  intact : Intact crypto db'
  guarded : Guarded env db'
  kept : EntriesKept db db'
  chained : db'.chained event = true

theorem recorded_of_eq_ok {n : Nat} {input : AuditEventInput} (hintact : Intact crypto db)
    (hguard : Guarded env db) (h : recordAuditEventTx crypto env n input db = .ok (event, db')) :
    Recorded crypto env event db db' := by
  obtain ⟨_, hevent, h⟩ := bind_eq_ok.mp h
  obtain ⟨⟨_, _, db₂⟩, hensure, h⟩ := bind_eq_ok.mp h
  obtain ⟨_, hentry, h⟩ := bind_eq_ok.mp h
  cases h
  have hadded := eventAdded_of_insert hevent
  have hensured := ensured_of_eq_ok hensure
  have hnew : ∀ e ∈ db.entries, e.auditEventID ≠ (input.event env n).id := by
    intro e he heq
    rcases hguard e he with hfresh | ⟨event', hevent', hid'⟩
    · exact hfresh n heq
    · exact hadded.unused event' hevent' (hid'.trans heq)
  have hentries : db₂.entries = db.entries := hensured.entries.trans hadded.entries
  have hintact₁ := hadded.intact (env.mustID_ne_empty "aud" n) hnew hintact
  have hintact₂ := hensured.intact hintact₁
  have hunchained : db₂.chained (input.event env n) = false := by
    rw [Bool.eq_false_iff, Ne, chained_iff, hentries]
    rintro ⟨e, he, hof⟩
    exact hnew e he (isEntryOf_iff.mp hof).2
  have hmem : input.event env n ∈ db₂.events := by
    rw [hensured.events]
    exact hadded.events.mpr (.inr rfl)
  have hgrown := grown_of_insert hintact₂.toSound (hensured.endsAt hintact₁) hmem hunchained hentry
  constructor
  case intact =>
    refine hgrown.sound.intact_updateHead (hgrown.heads ▸ hensured.row) hgrown.endsAt fun tenantID hne ↦ ?_
    rw [headOf_congr hgrown.heads]
    exact hgrown.others hne (hintact₂.heads tenantID)
  case guarded =>
    intro e he
    rcases hgrown.names e he with he | hid
    · rw [hentries] at he
      refine (hguard e he).imp_right fun ⟨event, hevent, hid⟩ ↦ ⟨event, ?_, hid⟩
      rw [sameChains_updateHead.events, hgrown.events, hensured.events]
      exact hadded.events.mpr (.inl hevent)
    · refine .inr ⟨input.event env n, ?_, hid.symm⟩
      rw [sameChains_updateHead.events, hgrown.events]
      exact hmem
  case kept => exact (kept_of_entries_eq hentries).trans hgrown.kept
  case chained => exact hgrown.chained

/-- What the events of one transaction achieve. -/
theorem recordAuditEvents_eq_ok (hintact : Intact crypto db) (hguard : Guarded env db)
    (h : recordAuditEvents crypto env n inputs db = .ok (events, db')) :
    Intact crypto db' ∧ EntriesKept db db' ∧ ∀ event ∈ events, db'.chained event = true := by
  induction inputs generalizing n events db with
  | nil =>
    cases h
    exact ⟨hintact, .refl, nofun⟩
  | cons _ _ ih =>
    obtain ⟨⟨_, _⟩, hfirst, h⟩ := bind_eq_ok.mp h
    obtain ⟨⟨_, _⟩, hrest, h⟩ := bind_eq_ok.mp h
    cases h
    have hrecorded := recorded_of_eq_ok hintact hguard hfirst
    obtain ⟨hintact', hkept, hchained⟩ := ih hrecorded.intact hrecorded.guarded hrest
    refine ⟨hintact', hrecorded.kept.trans hkept, List.forall_mem_cons.mpr ⟨?_, hchained⟩⟩
    exact hkept.kept _ hrecorded.chained

/-! ## Backfill -/

/-- What holds between two rounds of the loop over a tenant's events; `start` are the tables before the loop. -/
structure Filling (crypto : Crypto) (tenantID : String) (start : AuditTables) (v : BackfillState)
    (db : AuditTables) : Prop where
  sound : Sound crypto db
  endsAt : EndsAt crypto db tenantID v.sequence v.previousHash
  others : ∀ {tenantID' : String} {s : Int} {h : String}, tenantID' ≠ tenantID →
    EndsAt crypto start tenantID' s h → EndsAt crypto db tenantID' s h
  events : db.events = start.events
  heads : db.heads = start.heads
  kept : EntriesKept start db
  untouched : v.lastAuditEventID = "" → start.headOf tenantID = (v.sequence, v.previousHash)

/-- One round takes an event of the tenant that has no entry. -/
theorem Filling.round {used : Nat} {start : AuditTables} {v v' : BackfillState}
    (hfill : Filling crypto tenantID start v db) (htenant : event.tenantID = tenantID)
    (hevent : event ∈ start.events) (hnew : db.chained event = false)
    (h : backfillEvent crypto env used (v, db) event = .ok (v', db')) :
    Filling crypto tenantID start v' db' ∧
      ∀ event' : AuditEvent, event'.id ≠ event.id → db'.chained event' = db.chained event' := by
  subst htenant
  obtain ⟨_, hentry, h⟩ := bind_eq_ok.mp h
  cases h
  have hmem : event ∈ db.events := hfill.events ▸ hevent
  have hgrown := grown_of_insert hfill.sound hfill.endsAt hmem hnew hentry
  refine ⟨?_, fun event' ↦ hgrown.unchained⟩
  exact { hgrown with
    others := fun hne hend ↦ hgrown.others hne (hfill.others hne hend)
    events := hgrown.events.trans hfill.events
    heads := hgrown.heads.trans hfill.heads
    kept := hfill.kept.trans hgrown.kept
    untouched := fun hlast ↦ absurd hlast (hfill.sound.named event hmem) }

/-- The whole loop, over distinct events. -/
theorem Filling.rounds (hfill : Filling crypto tenantID start v db)
    (hevents : ∀ event ∈ events, event.tenantID = tenantID ∧ event ∈ start.events ∧ db.chained event = false)
    (hnodup : events.Nodup) (h : events.foldlM (backfillEvent crypto env used) (v, db) = .ok (v', db')) :
    Filling crypto tenantID start v' db' := by
  induction events generalizing v db with
  | nil =>
    cases h
    exact hfill
  | cons event _ ih =>
    rw [List.foldlM_cons] at h
    obtain ⟨⟨_, _⟩, hround, h⟩ := bind_eq_ok.mp h
    obtain ⟨htenant, hmem, hnew⟩ := hevents event List.mem_cons_self
    obtain ⟨hfill₁, hothers⟩ := hfill.round htenant hmem hnew hround
    refine ih hfill₁ (fun event' hevent' ↦ ?_) (List.nodup_cons.mp hnodup).2 h
    obtain ⟨htenant', hmem', hnew'⟩ := hevents event' (List.mem_cons_of_mem _ hevent')
    refine ⟨htenant', hmem', ?_⟩
    -- an event with the same identifier would be the same event, and the list has it once
    have hne : event'.id ≠ event.id := fun hid ↦
      (List.nodup_cons.mp hnodup).1 (Table.eq_of_key_eq hmem' hmem hid ▸ hevent')
    rw [hothers event' hne]
    exact hnew'

theorem mem_unchainedEvents (h : event ∈ unchainedEvents tenantID limit db) :
    event.tenantID = tenantID ∧ event ∈ db.events ∧ db.chained event = false := by
  have hfilter := List.mem_filter.mp ((List.mem_insertionSort _).mp (List.mem_of_mem_take h))
  simp only [Bool.and_eq_true, beq_iff_eq, Bool.not_eq_true'] at hfilter
  exact ⟨hfilter.2.1, hfilter.1, hfilter.2.2⟩

theorem nodup_unchainedEvents : (unchainedEvents tenantID limit db).Nodup := by
  have hrows : db.events.rows.Nodup := List.Nodup.of_map _ db.events.key_nodup
  refine ((List.perm_insertionSort _ _).nodup_iff.mpr (hrows.filter _)).sublist (List.take_sublist _ _)

theorem backfillTenantAuditChain_eq_ok (hintact : Intact crypto db)
    (h : backfillTenantAuditChain crypto env used tenantID limit db = .ok (backfilled, db')) :
    Intact crypto db' ∧ EntriesKept db db' := by
  obtain ⟨⟨sequence, previous, db₁⟩, hensure, h⟩ := bind_eq_ok.mp h
  obtain ⟨⟨_, db₂⟩, hloop, h⟩ := bind_eq_ok.mp h
  cases h
  have hensured := ensured_of_eq_ok hensure
  have hintact₁ := hensured.intact hintact
  have hstart : Filling crypto tenantID db₁ ⟨sequence, previous, "", 0⟩ db₁ := {
    sound := hintact₁.toSound
    endsAt := hensured.endsAt hintact
    others := fun _ hend ↦ hend
    events := rfl
    heads := rfl
    kept := .refl
    untouched := fun _ ↦ (hensured.heads tenantID).trans hensured.read }
  have hfill := hstart.rounds (fun _ ↦ mem_unchainedEvents) nodup_unchainedEvents hloop
  have hkept := (kept_of_entries_eq hensured.entries).trans hfill.kept
  have hothers (tenantID' : String) (hne : tenantID' ≠ tenantID) :
      EndsAt crypto db₂ tenantID' (db₂.headOf tenantID').1 (db₂.headOf tenantID').2 := by
    rw [headOf_congr hfill.heads]
    exact hfill.others hne (hintact₁.heads tenantID')
  split
  case isTrue =>
    exact ⟨hfill.sound.intact_updateHead (hfill.heads ▸ hensured.row) hfill.endsAt hothers, hkept⟩
  case isFalse hlast =>
    -- nothing was chained, and the head row is still right
    refine ⟨⟨hfill.sound, fun tenantID' ↦ ?_⟩, hkept⟩
    by_cases htenant : tenantID' = tenantID
    · subst htenant
      rw [headOf_congr hfill.heads, hfill.untouched (not_not.mp hlast)]
      exact hfill.endsAt
    · exact hothers tenantID' htenant

theorem backfillTenants_eq_ok (hintact : Intact crypto db)
    (h : backfillTenants crypto env tenants remaining result db = .ok (result', db')) :
    Intact crypto db' ∧ EntriesKept db db' := by
  induction tenants generalizing remaining result db with
  | nil =>
    cases h
    exact ⟨hintact, .refl⟩
  | cons _ _ ih =>
    rw [backfillTenants] at h
    split at h
    case isTrue =>
      cases h
      exact ⟨hintact, .refl⟩
    case isFalse =>
      obtain ⟨⟨_, _⟩, htenant, h⟩ := bind_eq_ok.mp h
      obtain ⟨hintact₁, hkept⟩ := backfillTenantAuditChain_eq_ok hintact htenant
      obtain ⟨hintact', hkept'⟩ := ih hintact₁ h
      exact ⟨hintact', hkept.trans hkept'⟩

/-- A lease changes nothing else. -/
theorem acquireLease_eq_ok
    (h : acquireLease now lease db = .ok (acquired, db')) : SameChains db db' ∧ db'.heads = db.heads := by
  unfold acquireLease at h
  split at h
  · obtain ⟨_, -, h⟩ := bind_eq_ok.mp h
    cases h
    exact ⟨⟨rfl, rfl⟩, rfl⟩
  · split at h
    · cases h
      exact ⟨⟨rfl, rfl⟩, rfl⟩
    · cases h
      exact ⟨⟨rfl, rfl⟩, rfl⟩

theorem backfillAuditChain_eq_ok (hintact : Intact crypto db)
    (h : backfillAuditChain crypto env workerID limit db = .ok (result, db')) :
    Intact crypto db' ∧ EntriesKept db db' := by
  obtain ⟨⟨_, db₁⟩, hlease, h⟩ := bind_eq_ok.mp h
  obtain ⟨hsame, hheads⟩ := acquireLease_eq_ok hlease
  have hintact₁ : Intact crypto db₁ :=
    ⟨hsame.sound hintact.toSound, hintact.heads.congr hsame.entries fun _ ↦ headOf_congr hheads⟩
  have hkept₁ := kept_of_entries_eq hsame.entries
  simp only at h
  split at h
  · cases h
    exact ⟨hintact₁, hkept₁⟩
  · obtain ⟨⟨_, _⟩, htenants, h⟩ := bind_eq_ok.mp h
    cases h
    obtain ⟨hintact', hkept'⟩ := backfillTenants_eq_ok hintact₁ htenants
    exact ⟨hintact', hkept₁.trans hkept'⟩

/-! ## Retention -/

section Retain

variable {now : Time} {policy : RetentionPolicy} {eventID : String} {entry : AuditChainEntry}

theorem retain_cases (now : Time) (policy : RetentionPolicy) (eventID : String) (entry : AuditChainEntry) :
    (entry.retain now policy eventID).state = .retained ∨
      entry.retain now policy eventID = entry ∧
        ¬(entry.tenantID = policy.tenantID ∧ entry.auditEventID = eventID) := by
  unfold AuditChainEntry.retain
  split
  case isTrue => exact .inl rfl
  case isFalse h =>
    by_cases hstate : entry.state = .retained
    · exact .inl hstate
    · exact .inr ⟨rfl, fun hof ↦ h ⟨hof.1, hof.2, hstate⟩⟩

/-- A tombstone keeps everything but its state. -/
theorem frame_retain : (entry.retain now policy eventID).frame = entry.frame := by
  unfold AuditChainEntry.retain
  split <;> rfl

@[simp]
theorem tenantID_retain : (entry.retain now policy eventID).tenantID = entry.tenantID :=
  (congrArg AuditChainEntry.tenantID frame_retain :)

@[simp]
theorem auditEventID_retain : (entry.retain now policy eventID).auditEventID = entry.auditEventID :=
  (congrArg AuditChainEntry.auditEventID frame_retain :)

@[simp]
theorem eventHash_retain : (entry.retain now policy eventID).eventHash = entry.eventHash :=
  (congrArg AuditChainEntry.eventHash frame_retain :)

theorem linked_retain (h : (links crypto).Linked n start rows) :
    (links crypto).Linked n start (rows.map (AuditChainEntry.retain now policy eventID)) := by
  refine (Links.linked_map ?_ ?_ ?_ ?_).mpr h
  · exact fun _ ↦ (congrArg AuditChainEntry.sequence frame_retain :)
  · exact fun _ ↦ eventHash_retain
  · exact fun _ ↦ (congrArg AuditChainEntry.previousChainHash frame_retain :)
  · exact fun _ ↦ (congrArg AuditChainEntry.chainHash frame_retain :)

/-- The tables after the events with an identifier were deleted behind their tombstones. -/
def retire (now : Time) (policy : RetentionPolicy) (db : AuditTables) (eventID : String) : AuditTables :=
  deleteEvent policy.tenantID eventID (retainEntry now policy eventID db)

theorem mem_entries_retire :
    e ∈ (retire now policy db eventID).entries ↔ ∃ entry ∈ db.entries, entry.retain now policy eventID = e :=
  List.mem_map

theorem mem_events_retire :
    event ∈ (retire now policy db eventID).events ↔
      event ∈ db.events ∧ ¬(event.tenantID = policy.tenantID ∧ event.id = eventID) := by
  refine Table.mem_delete.trans (and_congr_right fun _ ↦ ?_)
  rw [Bool.eq_false_iff, Ne, Bool.and_eq_true, beq_iff_eq, beq_iff_eq]

theorem isEntryOf_retain : isEntryOf event (entry.retain now policy eventID) = isEntryOf event entry :=
  isEntryOf_of_frame_eq frame_retain

theorem chainOf_retire :
    (retire now policy db eventID).chainOf tenantID =
      (db.chainOf tenantID).map (AuditChainEntry.retain now policy eventID) := by
  have hcomp : (fun e : AuditChainEntry ↦ e.tenantID == tenantID) ∘ AuditChainEntry.retain now policy eventID =
      fun e ↦ e.tenantID == tenantID := by
    funext e
    rw [Function.comp_apply, tenantID_retain]
  exact (List.filter_map ..).trans (by rw [hcomp]; rfl)

theorem Sound.retire (h : Sound crypto db) : Sound crypto (retire now policy db eventID) where
  linked tenantID := by
    rw [chainOf_retire]
    exact linked_retain (h.linked tenantID)
  once tenantID := by
    have hcomp : AuditChainEntry.auditEventID ∘ AuditChainEntry.retain now policy eventID =
        AuditChainEntry.auditEventID := funext fun _ ↦ auditEventID_retain
    rw [chainOf_retire, List.map_map, hcomp]
    exact h.once tenantID
  present := by
    intro e he hstate
    obtain ⟨entry, hentry, rfl⟩ := mem_entries_retire.mp he
    -- an entry that is no tombstone was not the entry of the deleted event
    rcases retain_cases now policy eventID entry with hretained | ⟨hsame, hother⟩
    · exact absurd hretained hstate
    · rw [hsame] at hstate ⊢
      obtain ⟨event, hevent, hof⟩ := h.present entry hentry hstate
      obtain ⟨htenant, hid⟩ := isEntryOf_iff.mp hof
      refine ⟨event, mem_events_retire.mpr ⟨hevent, fun hdeleted ↦ hother ?_⟩, hof⟩
      exact ⟨htenant.trans hdeleted.1, hid.trans hdeleted.2⟩
  hashed := by
    intro e he event hevent hof
    obtain ⟨entry, hentry, rfl⟩ := mem_entries_retire.mp he
    rw [eventHash_retain]
    exact h.hashed entry hentry event (mem_events_retire.mp hevent).1 (isEntryOf_retain.symm.trans hof)
  attested := by
    intro e he
    obtain ⟨entry, hentry, rfl⟩ := mem_entries_retire.mp he
    obtain ⟨event, hof, hhash⟩ := h.attested entry hentry
    exact ⟨event, isEntryOf_retain.trans hof, eventHash_retain.trans hhash⟩
  version := by
    intro e he
    obtain ⟨entry, hentry, rfl⟩ := mem_entries_retire.mp he
    exact (congrArg AuditChainEntry.canonicalizationVersion frame_retain :).trans (h.version entry hentry)
  named event hevent := h.named event (mem_events_retire.mp hevent).1

theorem Intact.retire (h : Intact crypto db) (now : Time) (policy : RetentionPolicy) (eventID : String) :
    Intact crypto (retire now policy db eventID) := by
  refine ⟨h.toSound.retire, fun tenantID ↦ ?_⟩
  have hend := h.heads tenantID
  constructor
  · rw [chainOf_retire, List.length_map]
    exact hend.sequence_eq
  · rw [chainOf_retire, Links.endHash_map fun _ ↦ (congrArg AuditChainEntry.chainHash frame_retain :)]
    exact hend.chainHash_eq

/-- The identifiers that entries name are the same after deletions. -/
def SameNames (db db' : AuditTables) : Prop :=
  ∀ e ∈ db'.entries, ∃ entry ∈ db.entries, entry.auditEventID = e.auditEventID

/-- The loop of a retention run. -/
theorem applyAuditEventRetention_spec (env : Env) (scan : Scan AuditEvent) (policy : RetentionPolicy) (cutoff : Time)
    (hintact : Intact crypto db) :
    Intact crypto (applyAuditEventRetention env scan policy cutoff db) ∧
      EntriesKept db (applyAuditEventRetention env scan policy cutoff db) ∧
      SameNames db (applyAuditEventRetention env scan policy cutoff db) := by
  unfold applyAuditEventRetention
  generalize expiredEvents scan policy.tenantID cutoff db = events
  induction events generalizing db with
  | nil => exact ⟨hintact, .refl, fun e he ↦ ⟨e, he, rfl⟩⟩
  | cons event _ ih =>
    obtain ⟨hintact', hkept, hnames⟩ := ih (hintact.retire env.now policy event.id)
    have hkept₀ : EntriesKept db (retire env.now policy db event.id) := fun entry hentry ↦
      ⟨_, mem_entries_retire.mpr ⟨entry, hentry, rfl⟩, frame_retain⟩
    refine ⟨hintact', hkept₀.trans hkept, fun e he ↦ ?_⟩
    obtain ⟨_, hentry', hid'⟩ := hnames e he
    obtain ⟨entry, hentry, rfl⟩ := mem_entries_retire.mp hentry'
    exact ⟨entry, hentry, auditEventID_retain.symm.trans hid'⟩

/-- A retention run. The event it records is new, as its identifier names no entry. -/
theorem applyRetentionPolicy_eq_ok
    (hintact : Intact crypto db) (hfresh : ∀ entry ∈ db.entries, ∀ n, entry.auditEventID ≠ env.mustID "aud" n)
    (h : applyRetentionPolicy crypto env scan workerID policy db = .ok (events, db')) :
    Intact crypto db' ∧ EntriesKept db db' ∧ ∀ event ∈ events, db'.chained event = true := by
  unfold applyRetentionPolicy at h
  split at h
  · cases h
    exact ⟨hintact, .refl, nofun⟩
  · obtain ⟨hintact₁, hkept₁, hnames⟩ := applyAuditEventRetention_spec env scan policy (policy.cutoff env.now) hintact
    have hguard : Guarded env (applyAuditEventRetention env scan policy (policy.cutoff env.now) db) := by
      intro e he
      obtain ⟨entry, hentry, hid⟩ := hnames e he
      exact .inl fun n ↦ hid ▸ hfresh entry hentry n
    obtain ⟨hintact', hkept, hchained⟩ := recordAuditEvents_eq_ok hintact₁ hguard h
    exact ⟨hintact', hkept₁.trans hkept, hchained⟩

end Retain

end Webhookery.Audit
