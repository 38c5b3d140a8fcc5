import Webhookery.Audit.Tampering

/-!
# Rewritten chains

The head row of a tenant commits to the whole chain: tables whose last entry carries the hash of the head row,
and that verify, have the entries the chain had, and the events that entries name are unchanged. The verifier
reads the number of the head row and not its hash, so that a chain that was computed anew from changed events
verifies as well.
-/

namespace Webhookery.Audit

open Go AuditTables

variable {crypto : Crypto} {db db' : AuditTables} {tenantID : String} {now : Time}

/-- The entry with the number of the head row carries its hash. -/
def HeadCarried (db : AuditTables) (tenantID : String) : Prop :=
  1 ≤ (db.headOf tenantID).1 → ∀ e ∈ db.chainOf tenantID, e.sequence = (db.headOf tenantID).1 →
    e.chainHash = (db.headOf tenantID).2

/-- An event is named by an entry that the verifier reads. -/
def NamedInView (db : AuditTables) (event : AuditEvent) : Prop :=
  ∃ e ∈ db.chainOf event.tenantID, 1 ≤ e.sequence ∧ e.sequence ≤ (db.headOf event.tenantID).1 ∧
    e.auditEventID = event.id

theorem mem_entriesBetween :
    e ∈ db.entriesBetween tenantID first last ↔ e ∈ db.chainOf tenantID ∧ first ≤ e.sequence ∧ e.sequence ≤ last := by
  rw [perm_entriesBetween.mem_iff, List.mem_filter, decide_eq_true_eq]

/-- The last hash of a verification is that of the entry with the number of the head row. -/
theorem exists_last_entry (hhead : 1 ≤ (db.headOf tenantID).1)
    (hvalid : (verifyAll crypto now tenantID db).valid = true) :
    ∃ e ∈ db.chainOf tenantID, e.sequence = (db.headOf tenantID).1 ∧
      (verifyAll crypto now tenantID db).endChainHash = e.chainHash := by
  obtain ⟨hlinked, -, _, hend⟩ := linked_entriesBetween hhead hvalid
  obtain ⟨e, he, hsequence⟩ := hlinked.exists_row hhead (by omega)
  have hsequence : e.sequence = (db.headOf tenantID).1 := hsequence
  obtain ⟨hchain, -⟩ := mem_entriesBetween.mp he
  -- No entry of the range has a greater number.
  have hbound : (db.entriesBetween tenantID 1 (db.headOf tenantID).1).length ≤ (db.headOf tenantID).1 := by
    by_contra hlong
    obtain ⟨e', he', hsequence'⟩ := hlinked.exists_row (by omega : 1 ≤ (db.headOf tenantID).1 + 1) (by omega)
    have hsequence' : e'.sequence = (db.headOf tenantID).1 + 1 := hsequence'
    have hrange := (mem_entriesBetween.mp he').2.2
    omega
  refine ⟨e, hchain, hsequence, ?_⟩
  rw [hend]
  apply hlinked.endHash_eq he
  change e.sequence + 1 = _
  omega

/-- The verification ends with the hash of the head row exactly when the entry with its number carries it. -/
theorem endChainHash_eq_iff (hempty : ¬1 ≤ (db.headOf tenantID).1 → (db.headOf tenantID).2 = "")
    (hvalid : (verifyAll crypto now tenantID db).valid = true) :
    (verifyAll crypto now tenantID db).endChainHash = (db.headOf tenantID).2 ↔ HeadCarried db tenantID := by
  by_cases hhead : 1 ≤ (db.headOf tenantID).1
  · obtain ⟨e, he, hsequence, hend⟩ := exists_last_entry hhead hvalid
    rw [hend]
    constructor
    · intro hhash _ e' he' hsequence'
      rw [← hhash]
      have hsame : e' = e := List.inj_on_of_nodup_map nodup_sequences he' he (hsequence'.trans hsequence.symm)
      rw [hsame]
    · exact fun hcarried ↦ hcarried hhead e he hsequence
  · rw [endChainHash_of_no_head hhead, hempty hhead]
    exact iff_of_true rfl fun hle ↦ absurd hle hhead

/-- What a verified rewriting leaves as it was: every entry, as far as its hashes go, and every event that is
still there and that an entry in view names. -/
structure Unaltered (db db' : AuditTables) (tenantID : String) : Prop where
  entries : ∀ e ∈ db.chainOf tenantID, ∃ e' ∈ db'.chainOf tenantID, e'.sequence = e.sequence ∧
    e'.eventHash = e.eventHash ∧ e'.previousChainHash = e.previousChainHash ∧ e'.chainHash = e.chainHash
  events : ∀ event ∈ db.events, ∀ event' ∈ db'.events, event.tenantID = tenantID → event'.tenantID = tenantID →
    event'.id = event.id → NamedInView db' event' → event' = event

theorem Intact.unaltered (hsha : Function.Injective crypto.sha256) (h : Intact crypto db)
    (hhead : db'.headOf tenantID = db.headOf tenantID) (hvalid : (verifyAll crypto now tenantID db').valid = true)
    (hcarried : HeadCarried db' tenantID) : Unaltered db db' tenantID := by
  have hends := h.heads tenantID
  by_cases hpos : 1 ≤ (db'.headOf tenantID).1
  · obtain ⟨hlinked, hevidence, _, hend⟩ := linked_entriesBetween hpos hvalid
    have hempty : ¬1 ≤ (db'.headOf tenantID).1 → (db'.headOf tenantID).2 = "" := fun hnot ↦ absurd hpos hnot
    have hhash := (endChainHash_eq_iff hempty hvalid).mpr hcarried
    have hpayloads : (db.chainOf tenantID).map AuditChainEntry.eventHash =
        (db'.entriesBetween tenantID 1 (db'.headOf tenantID).1).map AuditChainEntry.eventHash := by
      apply (h.linked tenantID).payloads_eq (chainHash_inj hsha) (fun _ _ ↦ hash_ne_empty _) hlinked
      rw [← hends.chainHash_eq, ← hend, hhash, hhead]
    have hcount := congrArg List.length hpayloads
    rw [List.length_map, List.length_map] at hcount
    constructor
    case entries =>
      intro e he
      have hbounds := (h.linked tenantID).bounds he
      rw [hcount] at hbounds
      obtain ⟨e', he', hsequence⟩ := hlinked.exists_row hbounds.1 hbounds.2
      have hread := (h.linked tenantID).hashes_eq hlinked hpayloads he he' hsequence.symm
      exact ⟨e', (mem_entriesBetween.mp he').1, hsequence,
        ((h.linked tenantID).payload_eq hlinked hpayloads he he' hsequence.symm).symm, hread.1.symm, hread.2.symm⟩
    case events =>
      intro event hevent event' hevent' htenant htenant' hid hnamed
      subst htenant'
      obtain ⟨e', hchain', hlow, hhigh, hnames⟩ := hnamed
      have he' := mem_entriesBetween.mpr ⟨hchain', hlow, hhigh⟩
      have hof' : isEntryOf event' e' = true := isEntryOf_iff.mpr ⟨(mem_chainOf.mp hchain').2, hnames⟩
      have hhash' : eventHash crypto event' = e'.eventHash :=
        (hevidence e' he').eventHash_eq hevent' hof' (hid ▸ h.named event hevent)
      obtain ⟨e, he, hsequence⟩ := (h.linked event'.tenantID).exists_row hlow (by omega)
      have hsame : e.eventHash = e'.eventHash :=
        (h.linked event'.tenantID).payload_eq hlinked hpayloads he he' hsequence
      -- The entry was written for the event whose hash it carries, so it names the event that is still there.
      obtain ⟨hentry, -⟩ := mem_chainOf.mp he
      obtain ⟨written, hwritten, hattested⟩ := h.attested e hentry
      obtain rfl : written = event' :=
        eventHash_injective hsha (hattested.symm.trans (hsame.trans hhash'.symm))
      have hof : isEntryOf event e = true := by
        rw [isEntryOf_iff, htenant, ← hid]
        exact isEntryOf_iff.mp hwritten
      apply eventHash_injective hsha
      rw [← hattested, ← h.hashed e hentry event hevent hof]
  · -- Without a head row there was no chain, and no entry is in view.
    have hnil : db.chainOf tenantID = [] := by
      apply List.eq_nil_of_length_eq_zero
      have hsequence := hends.sequence_eq
      rw [← hhead] at hsequence
      omega
    constructor
    case entries =>
      intro e he
      rw [hnil] at he
      cases he
    case events =>
      intro _ _ event' _ _ htenant' _ hnamed
      obtain ⟨_, -, _, hhigh, -⟩ := hnamed
      rw [htenant'] at hhigh
      omega

/-- However the entries and events of a tenant were rewritten below its head row: when they verify, the result
ends with the hash of the head row exactly when the last entry carries it, and then nothing that an entry in
view names was changed. -/
theorem unaltered_of_head_carried {start : AuditTables} {log : AuditLog} (hsha : Function.Injective crypto.sha256)
    (hstart : start.Unchained) (h : Reached crypto start log)
    (hhead : db'.headOf tenantID = log.tables.headOf tenantID)
    (hvalid : (verifyAll crypto now tenantID db').valid = true) :
    ((verifyAll crypto now tenantID db').endChainHash = (db'.headOf tenantID).2 ↔ HeadCarried db' tenantID) ∧
      (HeadCarried db' tenantID → Unaltered log.tables db' tenantID) := by
  have hintact := (h.intact hstart).tables
  refine ⟨endChainHash_eq_iff (fun hnot ↦ ?_) hvalid, fun hcarried ↦ hintact.unaltered hsha hhead hvalid hcarried⟩
  have hends := hintact.heads tenantID
  rw [hhead] at hnot ⊢
  have hnil : log.tables.chainOf tenantID = [] := by
    apply List.eq_nil_of_length_eq_zero
    have hsequence := hends.sequence_eq
    omega
  rw [hends.chainHash_eq, hnil]
  rfl

/-- Deleting the old event behind its tombstone is such a rewriting. -/
theorem unaltered_after_deletion : Unaltered twoEntries oneTombstone "ten_1" := by
  have hintact : Intact transparent oneTombstone := intact_twoEntries.retire 0 ⟨"ret_1", "ten_1", 1, false⟩ "aud_old"
  have hhead : 1 ≤ (oneTombstone.headOf "ten_1").1 := by decide +kernel
  obtain ⟨hvalid, hend⟩ := hintact.endChainHash_verifyAll 0 "ten_1" hhead
  obtain ⟨hiff, hunaltered⟩ := unaltered_of_head_carried Function.injective_id unchained_oldTables reached_twoEntries
    (rfl : oneTombstone.headOf "ten_1" = twoEntries.headOf "ten_1") hvalid
  exact hunaltered (hiff.mp hend)

/-! ## Rewritings that verify -/

/-- The tables after one recorded event. -/
def oneEntry : AuditLog := performAll transparent (mixedOps.take 1) ⟨oldTables, []⟩

def recorded : AuditEvent := routeUpdated.event (tenthDay "a") 0

/-- The entry of an event at the start of a chain. -/
def firstEntryOf (event : AuditEvent) : AuditChainEntry :=
  (computeEntry transparent "ace_a" event 1 "" "live" recorded.occurredAt).stored

/-- Another reason for what was recorded. -/
def excused (event : AuditEvent) : AuditEvent :=
  if event.id = "aud_a" then { event with reason := "as agreed" } else event

theorem excused_id (event : AuditEvent) : (excused event).id = event.id := by
  unfold excused
  split <;> rfl

/-- The event is changed, and the entries are others. -/
def rewritten (entry : AuditChainEntry) : AuditTables :=
  { oneEntry.tables with
    events := oneEntry.tables.events.modify excused excused_id fun _ ↦ rfl
    entries := ⟨[entry], List.nodup_singleton _, List.nodup_nil⟩ }

/-- The entry is computed anew. -/
def recomputed : AuditTables := rewritten (firstEntryOf (excused recorded))

/-- The entry is turned into the tombstone of an event that never was. -/
def disowned : AuditTables :=
  rewritten { firstEntryOf recorded with auditEventID := "aud_z", state := .retained }

theorem verifyAll_rewritten (entry : AuditChainEntry) (hrows : (rewritten entry).entriesBetween "ten_1" 1 1 = [entry])
    (hlinked : (links transparent).Linked 1 "" [entry]) (hevidence : Evidence transparent (rewritten entry) entry) :
    (verifyAll transparent 0 "ten_1" (rewritten entry)).valid = true ∧
      (verifyAll transparent 0 "ten_1" (rewritten entry)).endChainHash = entry.chainHash :=
  verifyAll_of_first rfl hrows hlinked hevidence

theorem excused_ne : excused recorded ≠ recorded := by decide

theorem eventHash_firstEntryOf_ne : (firstEntryOf (excused recorded)).eventHash ≠ (firstEntryOf recorded).eventHash :=
  fun h ↦ excused_ne (eventHash_injective Function.injective_id h)

/-- The head row is untouched and both rewritings verify. One ends with another hash than the head row's, with
the entry replaced and the event changed; the other ends with that hash, with the event changed. -/
theorem rewritings_verify :
    Function.Injective transparent.sha256 ∧ Reached transparent oldTables oneEntry ∧
      recomputed.headOf "ten_1" = oneEntry.tables.headOf "ten_1" ∧
      (verifyAll transparent 0 "ten_1" recomputed).valid = true ∧
      (verifyAll transparent 0 "ten_1" recomputed).endChainHash ≠ (recomputed.headOf "ten_1").2 ∧
      (∃ e ∈ oneEntry.tables.chainOf "ten_1", ∀ e' ∈ recomputed.chainOf "ten_1", e'.eventHash ≠ e.eventHash) ∧
      (∃ event ∈ oneEntry.tables.events, ∃ event' ∈ recomputed.events, event'.id = event.id ∧ event' ≠ event) ∧
      disowned.headOf "ten_1" = oneEntry.tables.headOf "ten_1" ∧
      (verifyAll transparent 0 "ten_1" disowned).valid = true ∧
      (verifyAll transparent 0 "ten_1" disowned).endChainHash = (disowned.headOf "ten_1").2 ∧
      ∃ event ∈ oneEntry.tables.events, ∃ event' ∈ disowned.events, event'.id = event.id ∧ event' ≠ event := by
  have hreached : Reached transparent oldTables oneEntry :=
    Reached.start.performAll ⟨List.forall_mem_nil _, trivial⟩
  have hchanged : ∃ event ∈ oneEntry.tables.events.rows, ∃ event' ∈ oneEntry.tables.events.rows.map excused,
      event'.id = event.id ∧ event' ≠ event :=
    ⟨recorded, List.mem_append_right _ List.mem_cons_self, excused recorded,
      List.mem_map_of_mem (List.mem_append_right _ List.mem_cons_self), rfl, excused_ne⟩
  obtain ⟨hvalid, hend⟩ := verifyAll_rewritten (firstEntryOf (excused recorded)) rfl ⟨rfl, rfl, rfl, trivial⟩ ⟨rfl, rfl⟩
  obtain ⟨hvalid', hend'⟩ := verifyAll_rewritten
    { firstEntryOf recorded with auditEventID := "aud_z", state := .retained } rfl ⟨rfl, rfl, rfl, trivial⟩ ⟨rfl, rfl⟩
  refine ⟨Function.injective_id, hreached, rfl, hvalid, ?_, ?_, hchanged, rfl, hvalid', hend', hchanged⟩
  · exact hend ▸ fun h ↦ eventHash_firstEntryOf_ne (chainHash_inj Function.injective_id h).2
  · refine ⟨firstEntryOf recorded, List.mem_singleton.mpr rfl, fun e' he' ↦ ?_⟩
    rw [List.mem_singleton.mp he']
    exact eventHash_firstEntryOf_ne

end Webhookery.Audit
