import Webhookery.Audit.Verification

/-!
# What a verified chain proves

Tables with any content may be verified, also those that were written by hand. Two of them that verify over
the full range with the same last hash hold the same history, as far as the verifier looks: at the entries up
to the number in the head row, and at events with an identifier. Entries beyond the head row are not read, so
setting it back hides them; and an event without an identifier is taken for one that is not there, so behind
a tombstone its columns are not checked.
-/

namespace Webhookery.Audit

open Go Relational Store AuditTables

variable {crypto : Crypto} {db db' : AuditTables} {tenantID : String} {now : Time}

/-- `VerifyAuditChain` over the full range, from the first number to that of the head row. -/
def verifyAll (crypto : Crypto) (now : Time) (tenantID : String) (db : AuditTables) : AuditChainVerification :=
  verifyAuditChain crypto now tenantID 1 (db.headOf tenantID).1 db

/-- The verifier looks at everything: no entry is outside the range that the head row gives, and every event of an
entry has an identifier. -/
structure InView (db : AuditTables) (tenantID : String) : Prop where
  entries : ∀ e ∈ db.chainOf tenantID, 1 ≤ e.sequence ∧ e.sequence ≤ (db.headOf tenantID).1
  events : ∀ e ∈ db.chainOf tenantID, ∀ event ∈ db.events, isEntryOf event e = true → event.id ≠ ""

/-- Two tables hold the same history of a tenant: as many entries, under the same numbers, with the same event
hashes, and the same event wherever both still hold it. -/
structure SameHistory (db db' : AuditTables) (tenantID : String) : Prop where
  count : (db.chainOf tenantID).length = (db'.chainOf tenantID).length
  numbers : ∀ n, (∃ e ∈ db.chainOf tenantID, e.sequence = n) ↔ ∃ e ∈ db'.chainOf tenantID, e.sequence = n
  eventHash : ∀ e ∈ db.chainOf tenantID, ∀ e' ∈ db'.chainOf tenantID, e.sequence = e'.sequence →
    e.eventHash = e'.eventHash
  event : ∀ e ∈ db.chainOf tenantID, ∀ e' ∈ db'.chainOf tenantID, e.sequence = e'.sequence →
    ∀ event ∈ db.events, ∀ event' ∈ db'.events, isEntryOf event e = true → isEntryOf event' e' = true →
      event = event'

/-- A tenant has one entry under a number. -/
theorem nodup_sequences : ((db.chainOf tenantID).map AuditChainEntry.sequence).Nodup := by
  have hkeys : ((db.chainOf tenantID).map fun e ↦ (e.tenantID, e.sequence)).Nodup :=
    db.entries.key_nodup.sublist (List.filter_sublist.map _)
  have hmap : ((db.chainOf tenantID).map fun e ↦ (e.tenantID, e.sequence)) =
      ((db.chainOf tenantID).map AuditChainEntry.sequence).map fun n ↦ (tenantID, n) := by
    rw [List.map_map]
    refine List.map_congr_left fun e he ↦ ?_
    rw [Function.comp_apply, (mem_chainOf.mp he).2]
  rw [hmap] at hkeys
  exact hkeys.of_map

theorem perm_entriesBetween :
    (db.entriesBetween tenantID first last).Perm
      ((db.chainOf tenantID).filter fun e ↦ first ≤ e.sequence ∧ e.sequence ≤ last) :=
  List.perm_insertionSort _ _

/-- The entries of a range come in the order of their numbers. -/
theorem entriesBetween_sorted :
    (db.entriesBetween tenantID first last).Pairwise fun e e' ↦ e.sequence < e'.sequence := by
  have htotal : Std.Total fun e e' : AuditChainEntry ↦ e.sequence ≤ e'.sequence :=
    ⟨fun e e' ↦ Int.le_total e.sequence e'.sequence⟩
  have htrans : IsTrans AuditChainEntry fun e e' ↦ e.sequence ≤ e'.sequence := ⟨fun _ _ _ ↦ Int.le_trans⟩
  have hle : (db.entriesBetween tenantID first last).Pairwise fun e e' ↦ e.sequence ≤ e'.sequence :=
    List.pairwise_insertionSort _ _
  have hnodup : ((db.entriesBetween tenantID first last).map AuditChainEntry.sequence).Nodup :=
    (perm_entriesBetween.map _).nodup_iff.mpr (nodup_sequences.sublist (List.filter_sublist.map _))
  exact hle.imp₂ (fun e e' hle hne ↦ lt_of_le_of_ne hle hne) (List.pairwise_map.mp hnodup)

/-- A full verification without a failure: the entries up to the number of the head row are linked from the
start and none is missing, each of them is evidence, and the result ends with the last hash. -/
theorem linked_entriesBetween (hhead : 1 ≤ (db.headOf tenantID).1)
    (hvalid : (verifyAll crypto now tenantID db).valid = true) :
    (links crypto).Linked 1 "" (db.entriesBetween tenantID 1 (db.headOf tenantID).1) ∧
      (∀ e ∈ db.entriesBetween tenantID 1 (db.headOf tenantID).1, Evidence crypto db e) ∧
      (db.headOf tenantID).1 ≤ (db.entriesBetween tenantID 1 (db.headOf tenantID).1).length ∧
      (verifyAll crypto now tenantID db).endChainHash =
        (links crypto).endHash "" (db.entriesBetween tenantID 1 (db.headOf tenantID).1) := by
  unfold verifyAll at hvalid ⊢
  rw [verifyAuditChain_of_le le_rfl hhead le_rfl] at hvalid ⊢
  generalize (db.headOf tenantID).1 = last at hvalid ⊢
  have hbegin : beginWalk db tenantID 1 (emptyResult tenantID 1 last now) =
      ⟨1, "", emptyResult tenantID 1 last now⟩ := if_neg (lt_irrefl 1)
  rw [hbegin] at hvalid ⊢
  have hconsistent : (finishWalk crypto db last ⟨1, "", emptyResult tenantID 1 last now⟩
      (db.entriesBetween tenantID 1 last)).Consistent :=
    (consistent_walk (iff_of_true rfl rfl)).report _
  obtain ⟨hfailures, hmissing⟩ := report_failures_eq_nil.mp (hconsistent.mp hvalid)
  have hbound : ∀ e ∈ db.entriesBetween tenantID 1 last, 1 ≤ e.sequence := by
    intro e he
    have hrange := (List.mem_filter.mp (perm_entriesBetween.mem_iff.mp he)).2
    exact (of_decide_eq_true hrange).1
  obtain ⟨-, hlinked, hevidence⟩ := (walk_failures_eq_nil entriesBetween_sorted hbound).mp hfailures
  rw [missingEntries_eq_nil, walk_expectedSequence hlinked] at hmissing
  dsimp only at hmissing
  exact ⟨hlinked, hevidence, by omega, walk_fields.2.2⟩

/-- A chain of one linked entry that is evidence verifies, and ends with its hash. -/
theorem verifyAll_of_first (hhead : (db.headOf tenantID).1 = 1)
    (hrows : db.entriesBetween tenantID 1 1 = [entry]) (hlinked : (links crypto).Linked 1 "" [entry])
    (hevidence : Evidence crypto db entry) :
    (verifyAll crypto now tenantID db).valid = true ∧
      (verifyAll crypto now tenantID db).endChainHash = entry.chainHash := by
  have hbegin : beginWalk db tenantID 1 (emptyResult tenantID 1 1 now) = ⟨1, "", emptyResult tenantID 1 1 now⟩ :=
    if_neg (lt_irrefl 1)
  rw [verifyAll, hhead, verifyAuditChain_of_le le_rfl le_rfl hhead.ge, hrows, hbegin]
  have hwalk := finishWalk_of_linked (w := ⟨1, "", emptyResult tenantID 1 1 now⟩) (iff_of_true rfl rfl) rfl hlinked
    (fun e he ↦ List.mem_singleton.mp he ▸ hevidence) (rfl : (1 : Int) + ([entry].length : Int) = 1 + 1)
  exact ⟨hwalk.1, hwalk.2.2.2.2⟩

/-- Without a chain to verify there is no last hash. -/
theorem endChainHash_of_no_head (hhead : ¬1 ≤ (db.headOf tenantID).1) :
    (verifyAll crypto now tenantID db).endChainHash = "" := by
  have hrange : (db.headOf tenantID).1 = 0 ∨ (db.headOf tenantID).1 < 1 := .inr (by omega)
  simp [verifyAll, verifyAuditChain, hrange]

/-- When every entry is in view, the verified entries are those of the chain. -/
theorem linked_of_valid (hview : InView db tenantID)
    (hvalid : (verifyAll crypto now tenantID db).valid = true) :
    ∃ rows : List AuditChainEntry, rows.Perm (db.chainOf tenantID) ∧ (links crypto).Linked 1 "" rows ∧
      (∀ e ∈ rows, Evidence crypto db e) ∧
      (verifyAll crypto now tenantID db).endChainHash = (links crypto).endHash "" rows := by
  by_cases hhead : 1 ≤ (db.headOf tenantID).1
  · obtain ⟨hlinked, hevidence, -, hend⟩ := linked_entriesBetween hhead hvalid
    refine ⟨_, ?_, hlinked, hevidence, hend⟩
    have hall : ((db.chainOf tenantID).filter fun e ↦ 1 ≤ e.sequence ∧ e.sequence ≤ (db.headOf tenantID).1) =
        db.chainOf tenantID :=
      List.filter_eq_self.mpr fun e he ↦ decide_eq_true (hview.entries e he)
    rw [← hall]
    exact perm_entriesBetween
  · -- the head row gives an empty range, so no entry is in view
    have hnil : db.chainOf tenantID = [] := by
      refine List.eq_nil_iff_forall_not_mem.mpr fun e he ↦ ?_
      have hbounds := hview.entries e he
      omega
    exact ⟨[], by rw [hnil], trivial, nofun, endChainHash_of_no_head hhead⟩

/-- The event of an entry is the one that was joined to it, and has the hash of the entry. -/
theorem Evidence.eventHash_eq {entry : AuditChainEntry} {event : AuditEvent} (h : Evidence crypto db entry)
    (hevent : event ∈ db.events) (hof : isEntryOf event entry = true) (hid : event.id ≠ "") :
    eventHash crypto event = entry.eventHash := by
  have hfind : (db.events.find? fun event ↦ isEntryOf event entry) = some event :=
    Table.find?_eq_some hevent hof fun event' hevent' hof' ↦ Table.eq_of_key_eq hevent' hevent
      ((isEntryOf_iff.mp hof').2.symm.trans (isEntryOf_iff.mp hof).2)
  have hevidence := h.event
  rw [joinedEvent, hfind, Option.getD_some, if_neg hid] at hevidence
  exact hevidence

/-- Tables in view of the verifier, verified over the full range with the same last hash, hold the same
history. -/
theorem same_history_of_same_hash {now now' : Time} (hsha : Function.Injective crypto.sha256)
    (hview : InView db tenantID) (hview' : InView db' tenantID)
    (hvalid : (verifyAll crypto now tenantID db).valid = true)
    (hvalid' : (verifyAll crypto now' tenantID db').valid = true)
    (hend : (verifyAll crypto now tenantID db).endChainHash = (verifyAll crypto now' tenantID db').endChainHash) :
    SameHistory db db' tenantID := by
  obtain ⟨rows, hperm, hlinked, hevidence, hhash⟩ := linked_of_valid hview hvalid
  obtain ⟨rows', hperm', hlinked', hevidence', hhash'⟩ := linked_of_valid hview' hvalid'
  have hpayloads : rows.map AuditChainEntry.eventHash = rows'.map AuditChainEntry.eventHash :=
    hlinked.payloads_eq (chainHash_inj hsha) (fun _ _ ↦ hash_ne_empty _) hlinked'
      (hhash.symm.trans (hend.trans hhash'))
  have hlength : rows.length = rows'.length := by
    rw [← List.length_map (f := AuditChainEntry.eventHash), hpayloads, List.length_map]
  have hhashes {e e' : AuditChainEntry} (he : e ∈ db.chainOf tenantID) (he' : e' ∈ db'.chainOf tenantID)
      (hsequence : e.sequence = e'.sequence) : e.eventHash = e'.eventHash :=
    hlinked.payload_eq hlinked' hpayloads (hperm.mem_iff.mpr he) (hperm'.mem_iff.mpr he') hsequence
  constructor
  case count => rw [← hperm.length_eq, ← hperm'.length_eq, hlength]
  case numbers =>
    intro n
    have hnumbers : (∃ e ∈ rows, e.sequence = n) ↔ ∃ e ∈ rows', e.sequence = n := by
      apply hlinked.exists_sequence_iff.trans
      rw [hlength]
      exact hlinked'.exists_sequence_iff.symm
    simpa only [hperm.mem_iff, hperm'.mem_iff] using hnumbers
  case eventHash => exact fun e he e' he' hsequence ↦ hhashes he he' hsequence
  case event =>
    intro e he e' he' hsequence event hevent event' hevent' hof hof'
    apply eventHash_injective hsha
    calc
      eventHash crypto event = e.eventHash :=
        (hevidence e (hperm.mem_iff.mpr he)).eventHash_eq hevent hof (hview.events e he event hevent hof)
      _ = e'.eventHash := hhashes he he' hsequence
      _ = eventHash crypto event' :=
        ((hevidence' e' (hperm'.mem_iff.mpr he')).eventHash_eq hevent' hof'
          (hview'.events e' he' event' hevent' hof')).symm

/-! ## In view and out of view -/

/-- A hash that tells all inputs apart. -/
def transparent : Crypto := ⟨id, fun _ message ↦ message⟩

/-- The chain of intact tables ends at the same hash as the result of a full verification. -/
theorem Intact.endChainHash_verifyAll (h : Intact crypto db) (now : Time) (tenantID : String)
    (hhead : 1 ≤ (db.headOf tenantID).1) :
    (verifyAll crypto now tenantID db).valid = true ∧
      (verifyAll crypto now tenantID db).endChainHash = (db.headOf tenantID).2 := by
  have hverified : RangeVerified db tenantID 1 (db.headOf tenantID).1 (verifyAll crypto now tenantID db) :=
    h.rangeVerified le_rfl hhead le_rfl
  obtain ⟨e, he, hsequence, hend⟩ := hverified.endChainHash
  refine ⟨hverified.valid, ?_⟩
  rw [hend, (h.heads tenantID).chainHash_eq]
  refine ((h.linked tenantID).endHash_eq he ?_).symm
  change e.sequence + 1 = 1 + _
  rw [hsequence, (h.heads tenantID).sequence_eq, add_comm]

theorem Intact.inView (h : Intact crypto db) : InView db tenantID where
  entries e he := by
    have hbounds := (h.linked tenantID).bounds he
    change 1 ≤ e.sequence ∧ e.sequence < _ at hbounds
    rw [(h.heads tenantID).sequence_eq]
    omega
  events _ _ event hevent _ := h.named event hevent

/-- One recorded event and one from before the chain. -/
def twoEntries : AuditTables :=
  (performAll transparent (mixedOps.take 2) ⟨oldTables, []⟩).tables

/-- The same tables after the old event was deleted behind its tombstone. -/
def oneTombstone : AuditTables := retire 0 ⟨"ret_1", "ten_1", 1, false⟩ twoEntries "aud_old"

theorem unchained_oldTables : oldTables.Unchained := ⟨rfl, rfl, by decide⟩

theorem reached_twoEntries : Reached crypto oldTables (performAll crypto (mixedOps.take 2) ⟨oldTables, []⟩) :=
  Reached.start.performAll ⟨List.forall_mem_nil _, trivial, trivial⟩

theorem intact_twoEntries : Intact transparent twoEntries := (reached_twoEntries.intact unchained_oldTables).tables

theorem same_history_after_deletion :
    twoEntries.events.rows.length = 2 ∧ oneTombstone.events.rows.length = 1 ∧
      SameHistory twoEntries oneTombstone "ten_1" := by
  have hintact := intact_twoEntries
  have hintact' : Intact transparent oneTombstone := hintact.retire 0 ⟨"ret_1", "ten_1", 1, false⟩ "aud_old"
  have hhead : 1 ≤ (twoEntries.headOf "ten_1").1 := by decide +kernel
  obtain ⟨hvalid, hend⟩ := hintact.endChainHash_verifyAll 0 "ten_1" hhead
  obtain ⟨hvalid', hend'⟩ := hintact'.endChainHash_verifyAll 0 "ten_1" hhead
  exact ⟨by decide +kernel, by decide +kernel,
    same_history_of_same_hash Function.injective_id hintact.inView hintact'.inView hvalid hvalid'
      (hend.trans hend'.symm)⟩

/-- Entry `n` of a chain, the tombstone of an event whose identifier is empty. -/
def blankTombstone (n : Int) : AuditChainEntry where
  id := if n = 1 then "ace_1" else "ace_2"
  tenantID := "ten_1"
  sequence := n
  auditEventID := if n = 1 then "" else "aud_2"
  eventHash := "sha256:00"
  previousChainHash := ""
  chainHash := chainHash transparent "" "sha256:00"
  canonicalizationVersion := canonicalizationVersion
  source := "live"
  state := .retained
  auditEventDeletedAt := none
  tombstoneReason := ""
  createdAt := 0

def firstEntry : Table AuditChainEntry (fun e ↦ (e.tenantID, e.sequence)) noIndex :=
  ⟨[blankTombstone 1], by decide, by decide⟩

def bothEntries : Table AuditChainEntry (fun e ↦ (e.tenantID, e.sequence)) noIndex :=
  ⟨[blankTombstone 1, blankTombstone 2], by decide, by decide⟩

/-- Some entries and an event without an identifier, below a head row for the first entry. -/
def forged (entries : Table AuditChainEntry (fun e ↦ (e.tenantID, e.sequence)) noIndex) (reason : String) :
    AuditTables where
  events := ⟨[⟨"", "ten_1", "usr_1", "access.granted", "user", "usr_2", reason, 0⟩],
    List.nodup_singleton _, List.nodup_nil⟩
  entries := entries
  heads := ⟨[⟨"ten_1", 1, "", "", 0⟩], List.nodup_singleton _, List.nodup_nil⟩
  leases := .empty

/-- A verification that finds the first entry only. -/
theorem verifyAll_forged {entries : Table AuditChainEntry (fun e ↦ (e.tenantID, e.sequence)) noIndex}
    {reason : String} (hrows : (forged entries reason).entriesBetween "ten_1" 1 1 = [blankTombstone 1]) :
    (verifyAll transparent 0 "ten_1" (forged entries reason)).valid = true ∧
      (verifyAll transparent 0 "ten_1" (forged entries reason)).endChainHash = (blankTombstone 1).chainHash :=
  verifyAll_of_first rfl hrows ⟨rfl, rfl, rfl, trivial⟩ ⟨rfl, rfl⟩

/-- Tables that verify with the same last hash, although one has an entry more, or another event at the same
number. -/
theorem tampering_out_of_view :
    Function.Injective transparent.sha256 ∧
      (verifyAll transparent 0 "ten_1" (forged firstEntry "on request")).valid = true ∧
      (verifyAll transparent 0 "ten_1" (forged bothEntries "on request")).valid = true ∧
      (verifyAll transparent 0 "ten_1" (forged firstEntry "by mistake")).valid = true ∧
      (verifyAll transparent 0 "ten_1" (forged firstEntry "on request")).endChainHash =
        (verifyAll transparent 0 "ten_1" (forged bothEntries "on request")).endChainHash ∧
      (verifyAll transparent 0 "ten_1" (forged firstEntry "on request")).endChainHash =
        (verifyAll transparent 0 "ten_1" (forged firstEntry "by mistake")).endChainHash ∧
      ¬SameHistory (forged firstEntry "on request") (forged bothEntries "on request") "ten_1" ∧
      ¬SameHistory (forged firstEntry "on request") (forged firstEntry "by mistake") "ten_1" := by
  obtain ⟨hfirst, hfirstEnd⟩ := verifyAll_forged (rfl :
    (forged firstEntry "on request").entriesBetween "ten_1" 1 1 = [blankTombstone 1])
  obtain ⟨hboth, hbothEnd⟩ := verifyAll_forged (rfl :
    (forged bothEntries "on request").entriesBetween "ten_1" 1 1 = [blankTombstone 1])
  obtain ⟨hother, hotherEnd⟩ := verifyAll_forged (rfl :
    (forged firstEntry "by mistake").entriesBetween "ten_1" 1 1 = [blankTombstone 1])
  refine ⟨Function.injective_id, hfirst, hboth, hother, hfirstEnd.trans hbothEnd.symm,
    hfirstEnd.trans hotherEnd.symm, fun h ↦ ?_, fun h ↦ ?_⟩
  · exact absurd h.count (by decide)
  · have hevent := h.event (blankTombstone 1) List.mem_cons_self (blankTombstone 1) List.mem_cons_self rfl
      _ List.mem_cons_self _ List.mem_cons_self rfl rfl
    exact absurd (congrArg AuditEvent.reason hevent) (by decide)

end Webhookery.Audit
