import Webhookery.Audit.Runs

/-!
# Verification of the chain

`VerifyAuditChain` walks over the entries of a range and recomputes their hashes. It reports no failure exactly
when the entries are linked from the hash before the range and carry the hashes of their events. The chains
that the writers leave behind satisfy this for every range.
-/

namespace Webhookery.Audit

open Go Relational AuditTables

variable {crypto : Crypto} {db : AuditTables} {tenantID : String} {first last : Int}

/-! ## The verifier -/

inductive FailureKind where
  | missingPreviousEntry
  | missingEntry
  | unsupportedCanonicalizationVersion
  | previousHashMismatch
  | missingAuditEvent
  | eventHashMismatch
  | chainHashMismatch
  deriving DecidableEq, Repr

structure AuditChainFailure where
  sequence : Int
  auditEventID : String
  kind : FailureKind
  detail : String
  deriving DecidableEq, Repr

structure AuditChainVerification where
  tenantID : String
  valid : Bool
  (fromSequence toSequence : Int)
  (checkedEntries retainedEntries : Nat)
  (startChainHash endChainHash : String)
  failures : List AuditChainFailure
  verifiedAt : Time
  deriving DecidableEq, Repr

/-- Some failures are added; any of them makes the result invalid. -/
def AuditChainVerification.report (result : AuditChainVerification) (failures : List AuditChainFailure) :
    AuditChainVerification :=
  { result with
    valid := result.valid && failures.isEmpty
    failures := result.failures ++ failures }

/-- A failure for each number from one up to, but not including, another. -/
def missingEntries (expectedSequence sequence : Int) : List AuditChainFailure :=
  (List.range (sequence - expectedSequence).toNat).map fun k : Nat ↦
    ⟨expectedSequence + k, "", .missingEntry, ""⟩

/-- The failures of one entry, in the order of the checks. -/
def entryFailures (crypto : Crypto) (db : AuditTables) (expectedSequence : Int) (expectedPrevious : String)
    (entry : AuditChainEntry) : List AuditChainFailure :=
  let failure (kind : FailureKind) (detail : String) : AuditChainFailure :=
    ⟨entry.sequence, entry.auditEventID, kind, detail⟩
  let event := db.joinedEvent entry
  missingEntries expectedSequence entry.sequence ++
    (if entry.canonicalizationVersion ≠ canonicalizationVersion then
      [failure .unsupportedCanonicalizationVersion entry.canonicalizationVersion] else []) ++
    (if entry.previousChainHash ≠ expectedPrevious then [failure .previousHashMismatch ""] else []) ++
    (if event.id = "" then
      if entry.state = .retained then [] else [failure .missingAuditEvent ""]
    else if eventHash crypto event ≠ entry.eventHash then [failure .eventHashMismatch ""] else []) ++
    (if chainHash crypto expectedPrevious entry.eventHash ≠ entry.chainHash then
      [failure .chainHashMismatch ""] else [])

/-- The variables of the loop. -/
structure Walk where
  expectedSequence : Int
  expectedPrevious : String
  result : AuditChainVerification

def checkEntry (crypto : Crypto) (db : AuditTables) (w : Walk) (entry : AuditChainEntry) : Walk :=
  let result := w.result.report (entryFailures crypto db w.expectedSequence w.expectedPrevious entry)
  { expectedSequence := entry.sequence + 1
    expectedPrevious := entry.chainHash
    result := { result with
      checkedEntries := result.checkedEntries + 1
      retainedEntries := result.retainedEntries +
        (if (db.joinedEvent entry).id = "" ∧ entry.state = .retained then 1 else 0)
      endChainHash := entry.chainHash } }

/-- The entries of a range, `ORDER BY sequence ASC`. -/
def AuditTables.entriesBetween (db : AuditTables) (tenantID : String) (first last : Int) : List AuditChainEntry :=
  ((db.chainOf tenantID).filter fun e ↦ first ≤ e.sequence ∧ e.sequence ≤ last).insertionSort fun e e' ↦
    e.sequence ≤ e'.sequence

/-- The chain hash before a range, and the result that it begins with. -/
def beginWalk (db : AuditTables) (tenantID : String) (first : Int) (result : AuditChainVerification) : Walk :=
  if 1 < first then
    match db.entries.find? fun e ↦ e.tenantID == tenantID && e.sequence == first - 1 with
    | some entry => ⟨first, entry.chainHash, { result with startChainHash := entry.chainHash }⟩
    | none => ⟨first, "", result.report [⟨first - 1, "", .missingPreviousEntry, "no rows in result set"⟩]⟩
  else ⟨first, "", result⟩

def verifyAuditChain (crypto : Crypto) (now : Time) (tenantID : String) (fromSequence toSequence : Int)
    (db : AuditTables) : AuditChainVerification :=
  let head := (db.headOf tenantID).1
  let first := if fromSequence ≤ 0 then 1 else fromSequence
  let last := if toSequence ≤ 0 ∨ head < toSequence then head else toSequence
  let result : AuditChainVerification := ⟨tenantID, true, first, last, 0, 0, "", "", [], now⟩
  if head = 0 ∨ last < first then { result with toSequence := 0 }
  else
    let w := (db.entriesBetween tenantID first last).foldl (checkEntry crypto db)
      (beginWalk db tenantID first result)
    w.result.report (missingEntries w.expectedSequence (last + 1))

/-! ## What the walk accepts -/

/-- The entry can be checked, and carries the hash of its event or is the tombstone of one. -/
structure Evidence (crypto : Crypto) (db : AuditTables) (entry : AuditChainEntry) : Prop where
  version : entry.canonicalizationVersion = canonicalizationVersion
  event : if (db.joinedEvent entry).id = "" then entry.state = .retained
    else eventHash crypto (db.joinedEvent entry) = entry.eventHash

theorem missingEntries_eq_nil : missingEntries n m = [] ↔ m ≤ n := by
  rw [missingEntries, List.map_eq_nil_iff, List.range_eq_nil]
  omega

theorem entryFailures_eq_nil :
    entryFailures crypto db expectedSequence expectedPrevious entry = [] ↔
      entry.sequence ≤ expectedSequence ∧ entry.previousChainHash = expectedPrevious ∧
        entry.chainHash = chainHash crypto expectedPrevious entry.eventHash ∧ Evidence crypto db entry := by
  have hif (p : Prop) [Decidable p] (failure : AuditChainFailure) :
      (if p then [failure] else []) = [] ↔ ¬p := by
    split <;> simp_all
  have hevent (kind : AuditChainFailure) (kind' : AuditChainFailure) :
      (if (db.joinedEvent entry).id = "" then if entry.state = .retained then [] else [kind]
        else if eventHash crypto (db.joinedEvent entry) ≠ entry.eventHash then [kind'] else []) = [] ↔
        if (db.joinedEvent entry).id = "" then entry.state = .retained
        else eventHash crypto (db.joinedEvent entry) = entry.eventHash := by
    split
    · split <;> simp_all
    · rw [hif, not_not]
  simp only [entryFailures, List.append_eq_nil_iff, missingEntries_eq_nil, hevent, hif, not_not]
  constructor
  · rintro ⟨⟨⟨⟨hsequence, hversion⟩, hprevious⟩, hevent⟩, hhash⟩
    exact ⟨hsequence, hprevious, hhash.symm, hversion, hevent⟩
  · rintro ⟨hsequence, hprevious, hhash, hversion, hevent⟩
    exact ⟨⟨⟨⟨hsequence, hversion⟩, hprevious⟩, hevent⟩, hhash.symm⟩

/-- A result is valid when it has no failures. -/
def AuditChainVerification.Consistent (result : AuditChainVerification) : Prop :=
  result.valid = true ↔ result.failures = []

theorem AuditChainVerification.Consistent.report {result : AuditChainVerification} (h : result.Consistent)
    (failures : List AuditChainFailure) : (result.report failures).Consistent := by
  simp only [Consistent, AuditChainVerification.report, Bool.and_eq_true, List.append_eq_nil_iff,
    List.isEmpty_iff] at h ⊢
  rw [h]

theorem report_failures_eq_nil {result : AuditChainVerification} {failures : List AuditChainFailure} :
    (result.report failures).failures = [] ↔ result.failures = [] ∧ failures = [] :=
  List.append_eq_nil_iff

section Walk

variable {rows : List AuditChainEntry} {w : Walk}

theorem consistent_walk (h : w.result.Consistent) : (rows.foldl (checkEntry crypto db) w).result.Consistent := by
  induction rows generalizing w with
  | nil => exact h
  | cons _ _ ih => exact ih (h.report _)

/-- What the walk carries along, whatever it finds. -/
theorem walk_fields :
    (rows.foldl (checkEntry crypto db) w).result.checkedEntries = w.result.checkedEntries + rows.length ∧
      (rows.foldl (checkEntry crypto db) w).result.startChainHash = w.result.startChainHash ∧
      (rows.foldl (checkEntry crypto db) w).result.endChainHash =
        (links crypto).endHash w.result.endChainHash rows := by
  induction rows generalizing w with
  | nil => exact ⟨rfl, rfl, rfl⟩
  | cons entry rows ih =>
    obtain ⟨hchecked, hstart, hend⟩ := ih (w := checkEntry crypto db w entry)
    refine ⟨?_, hstart, hend⟩
    rw [List.foldl_cons, hchecked, List.length_cons]
    change w.result.checkedEntries + 1 + rows.length = _
    omega

/-- The number that the walk expects next. -/
theorem walk_expectedSequence (h : (links crypto).Linked w.expectedSequence w.expectedPrevious rows) :
    (rows.foldl (checkEntry crypto db) w).expectedSequence = w.expectedSequence + rows.length := by
  induction rows generalizing w with
  | nil => exact (add_zero _).symm
  | cons entry _ ih =>
    obtain ⟨hsequence, -, -, hrest⟩ := h
    have hnext : (checkEntry crypto db w entry).expectedSequence = w.expectedSequence + 1 :=
      congrArg (· + 1) hsequence
    rw [List.foldl_cons, ih (hnext ▸ hrest), hnext, List.length_cons]
    push_cast
    ring

/-- The walk over entries in order finds no failure exactly when they are linked and every entry is evidence. -/
theorem walk_failures_eq_nil (hsorted : rows.Pairwise fun e e' ↦ e.sequence < e'.sequence)
    (hbound : ∀ e ∈ rows, w.expectedSequence ≤ e.sequence) :
    (rows.foldl (checkEntry crypto db) w).result.failures = [] ↔
      w.result.failures = [] ∧ (links crypto).Linked w.expectedSequence w.expectedPrevious rows ∧
        ∀ e ∈ rows, Evidence crypto db e := by
  induction rows generalizing w with
  | nil => simp [Links.Linked]
  | cons entry rows ih =>
    obtain ⟨hfirst, hsorted⟩ := List.pairwise_cons.mp hsorted
    have hnext : ∀ e ∈ rows, (checkEntry crypto db w entry).expectedSequence ≤ e.sequence := hfirst
    have hlower := hbound entry List.mem_cons_self
    have hfailures : (checkEntry crypto db w entry).result.failures = [] ↔ w.result.failures = [] ∧
        entryFailures crypto db w.expectedSequence w.expectedPrevious entry = [] := report_failures_eq_nil
    rw [List.foldl_cons, ih hsorted hnext, hfailures, entryFailures_eq_nil, List.forall_mem_cons]
    constructor
    · rintro ⟨⟨hnil, hsequence, hprevious, hhash, hevidence⟩, hlinked, hrest⟩
      have hsequence : entry.sequence = w.expectedSequence := le_antisymm hsequence hlower
      refine ⟨hnil, ⟨hsequence, hprevious, hhash, ?_⟩, hevidence, hrest⟩
      rw [← hsequence]
      exact hlinked
    · rintro ⟨hnil, ⟨hsequence, hprevious, hhash, hlinked⟩, hevidence, hrest⟩
      have hsequence : entry.sequence = w.expectedSequence := hsequence
      refine ⟨⟨hnil, hsequence.le, hprevious, hhash, hevidence⟩, ?_, hrest⟩
      rw [← hsequence] at hlinked
      exact hlinked

/-- The result of a walk, with the failures for the entries that are missing at the end. -/
def finishWalk (crypto : Crypto) (db : AuditTables) (last : Int) (w : Walk) (rows : List AuditChainEntry) :
    AuditChainVerification :=
  (rows.foldl (checkEntry crypto db) w).result.report
    (missingEntries (rows.foldl (checkEntry crypto db) w).expectedSequence (last + 1))

/-- A walk over evidence that is linked up to the last number is clean, and ends with the hash of the last
entry. -/
theorem finishWalk_of_linked {last : Int} (hconsistent : w.result.Consistent) (hnil : w.result.failures = [])
    (hlinked : (links crypto).Linked w.expectedSequence w.expectedPrevious rows)
    (hevidence : ∀ e ∈ rows, Evidence crypto db e) (hlast : w.expectedSequence + rows.length = last + 1) :
    (finishWalk crypto db last w rows).valid = true ∧ (finishWalk crypto db last w rows).failures = [] ∧
      (finishWalk crypto db last w rows).checkedEntries = w.result.checkedEntries + rows.length ∧
      (finishWalk crypto db last w rows).startChainHash = w.result.startChainHash ∧
      (finishWalk crypto db last w rows).endChainHash = (links crypto).endHash w.result.endChainHash rows := by
  have hfailures : (finishWalk crypto db last w rows).failures = [] := by
    rw [finishWalk, report_failures_eq_nil, missingEntries_eq_nil, walk_expectedSequence hlinked, hlast,
      walk_failures_eq_nil hlinked.sorted fun e he ↦ (hlinked.bounds he).1]
    exact ⟨⟨hnil, hlinked, hevidence⟩, le_rfl⟩
  have hvalid : (finishWalk crypto db last w rows).valid = true :=
    ((consistent_walk hconsistent).report _).mpr hfailures
  exact ⟨hvalid, hfailures, walk_fields⟩

end Walk

/-! ## Ranges -/

/-- The result that a walk begins with. -/
def emptyResult (tenantID : String) (first last : Int) (now : Time) : AuditChainVerification :=
  ⟨tenantID, true, first, last, 0, 0, "", "", [], now⟩

/-- Within the chain the requested range is the one that is verified. -/
theorem verifyAuditChain_of_le (hfirst : 1 ≤ first) (hle : first ≤ last) (hlast : last ≤ (db.headOf tenantID).1) :
    verifyAuditChain crypto now tenantID first last db =
      finishWalk crypto db last (beginWalk db tenantID first (emptyResult tenantID first last now))
        (db.entriesBetween tenantID first last) := by
  have hfirst' : ¬first ≤ 0 := by omega
  have hlast' : ¬(last ≤ 0 ∨ (db.headOf tenantID).1 < last) := by omega
  have hempty : ¬((db.headOf tenantID).1 = 0 ∨ last < first) := by omega
  simp only [verifyAuditChain, if_neg hfirst', if_neg hlast', if_neg hempty]
  rfl

/-- Every entry of sound tables is evidence. -/
theorem Sound.evidence (h : Sound crypto db) (hentry : entry ∈ db.entries) : Evidence crypto db entry := by
  refine ⟨h.version entry hentry, ?_⟩
  unfold joinedEvent
  cases hfind : db.events.find? fun event ↦ isEntryOf event entry with
  | none =>
    rw [Option.getD_none, if_pos rfl]
    by_contra hstate
    obtain ⟨event, hevent, hof⟩ := h.present entry hentry hstate
    exact absurd hof (List.find?_eq_none.mp hfind event hevent)
  | some event =>
    have hof := List.find?_some hfind
    have hevent := List.mem_of_find?_eq_some hfind
    rw [Option.getD_some, if_neg (h.named event hevent)]
    exact (h.hashed entry hentry event hevent hof).symm

/-- In a linked chain, the entries of a range are those after the hash with which the range begins. -/
theorem Sound.exists_range (h : Sound crypto db) (hfirst : 1 ≤ first) (hle : first ≤ last)
    (hlast : last ≤ (db.chainOf tenantID).length) :
    ∃ before after : List AuditChainEntry,
      db.chainOf tenantID = before ++ (db.entriesBetween tenantID first last ++ after) ∧
        1 + (before.length : Int) = first ∧
        first + ((db.entriesBetween tenantID first last).length : Int) = last + 1 := by
  obtain ⟨before, block, after, hrows, hfilter, hbefore, hblock⟩ :=
    (h.linked tenantID).exists_block hfirst (by omega : first ≤ last + 1) (by omega)
  have hsorted : ((db.chainOf tenantID).filter fun e ↦ first ≤ e.sequence ∧ e.sequence ≤ last).Pairwise
      fun e e' ↦ e.sequence ≤ e'.sequence :=
    ((h.linked tenantID).sorted.filter _).imp fun hlt ↦ le_of_lt hlt
  have hentries : db.entriesBetween tenantID first last = block := by
    rw [entriesBetween, hsorted.insertionSort_eq]
    exact hfilter
  rw [hentries]
  exact ⟨before, after, hrows, hbefore, hblock⟩

/-- The walk begins with the hash of the entry before the range. -/
theorem Sound.beginWalk_eq (h : Sound crypto db)
    (hrows : db.chainOf tenantID = before ++ rest) (hbefore : 1 + (before.length : Int) = first)
    (result : AuditChainVerification) :
    beginWalk db tenantID first result =
      ⟨first, (links crypto).endHash "" before,
        { result with startChainHash :=
            if 1 < first then (links crypto).endHash "" before else result.startChainHash }⟩ := by
  have hlinked : (links crypto).Linked 1 "" before := by
    have hlinked := h.linked tenantID
    rw [hrows, Links.linked_append] at hlinked
    exact hlinked.1
  unfold beginWalk
  split
  case isTrue =>
    obtain ⟨entry, hentry, hsequence⟩ := hlinked.exists_row (by omega : 1 ≤ first - 1) (by omega)
    have hmem := mem_chainOf.mp (hrows ▸ List.mem_append_left rest hentry)
    have hfind : (db.entries.find? fun e ↦ e.tenantID == tenantID && e.sequence == first - 1) = some entry := by
      refine Table.find?_eq_some hmem.1 ?_ fun e he hof ↦ ?_
      · rw [Bool.and_eq_true, beq_iff_eq, beq_iff_eq]
        exact ⟨hmem.2, hsequence⟩
      · rw [Bool.and_eq_true, beq_iff_eq, beq_iff_eq] at hof
        exact Table.eq_of_key_eq he hmem.1
          (Prod.ext (hof.1.trans hmem.2.symm) (hof.2.trans hsequence.symm))
    have hend : (links crypto).endHash "" before = entry.chainHash := by
      refine hlinked.endHash_eq hentry ?_
      rw [hsequence]
      omega
    rw [hfind, hend]
  case isFalse =>
    have hnil : before = [] := List.eq_nil_of_length_eq_zero (by omega)
    rw [hnil]
    rfl

/-- What is found about a range of a chain: no failure, and the hashes before it and at its end. -/
structure RangeVerified (db : AuditTables) (tenantID : String) (first last : Int) (result : AuditChainVerification) :
    Prop where
  valid : result.valid = true
  failures : result.failures = []
  checkedEntries : (result.checkedEntries : Int) = last - first + 1
  startChainHash : if first = 1 then result.startChainHash = ""
    else ∃ e ∈ db.chainOf tenantID, e.sequence = first - 1 ∧ result.startChainHash = e.chainHash
  endChainHash : ∃ e ∈ db.chainOf tenantID, e.sequence = last ∧ result.endChainHash = e.chainHash

/-- Every range of an intact chain is verified. -/
theorem Intact.rangeVerified (hintact : Intact crypto db) (hfirst : 1 ≤ first)
    (hle : first ≤ last) (hlast : last ≤ (db.headOf tenantID).1) :
    RangeVerified db tenantID first last (verifyAuditChain crypto now tenantID first last db) := by
  have hsound := hintact.toSound
  rw [verifyAuditChain_of_le hfirst hle hlast]
  rw [(hintact.heads tenantID).sequence_eq] at hlast
  obtain ⟨before, _, hrows, hbefore, hblock⟩ := hsound.exists_range hfirst hle hlast
  have hbegin := hsound.beginWalk_eq hrows hbefore (emptyResult tenantID first last now)
  generalize beginWalk db tenantID first (emptyResult tenantID first last now) = w at hbegin
  generalize db.entriesBetween tenantID first last = block at hrows hblock
  have hlinked := hsound.linked tenantID
  rw [hrows, Links.linked_append, Links.linked_append, hbefore] at hlinked
  obtain ⟨hlinkedBefore, hlinkedBlock, -⟩ := hlinked
  have hmem {e : AuditChainEntry} (he : e ∈ block) : e ∈ db.chainOf tenantID := by
    rw [hrows]
    exact List.mem_append_right _ (List.mem_append_left _ he)
  have hsequence : w.expectedSequence = first := by rw [hbegin]
  have hprevious : w.expectedPrevious = (links crypto).endHash "" before := by rw [hbegin]
  have hconsistent : w.result.Consistent := by
    rw [hbegin]
    exact iff_of_true rfl rfl
  have hwalk : (links crypto).Linked w.expectedSequence w.expectedPrevious block := by
    rw [hsequence, hprevious]
    exact hlinkedBlock
  obtain ⟨hvalid, hfailures, hchecked, hstartHash, hendHash⟩ := finishWalk_of_linked hconsistent
    (by rw [hbegin]; rfl) hwalk (fun e he ↦ hsound.evidence (mem_chainOf.mp (hmem he)).1) (by rw [hsequence, hblock])
  refine ⟨hvalid, hfailures, ?_, ?_, ?_⟩
  · rw [hchecked, hbegin]
    change ((0 + block.length : Nat) : Int) = last - first + 1
    omega
  · rw [hstartHash, hbegin]
    split
    case isTrue => rw [if_neg (by omega)]; rfl
    case isFalse =>
      rw [if_pos (by omega)]
      obtain ⟨e, he, hsequence⟩ := hlinkedBefore.exists_row (by omega : 1 ≤ first - 1) (by omega)
      refine ⟨e, hrows ▸ List.mem_append_left _ he, hsequence, hlinkedBefore.endHash_eq he ?_⟩
      rw [hsequence]
      omega
  · obtain ⟨e, he, hsequence⟩ := hlinkedBlock.exists_row hle (by omega)
    refine ⟨e, hmem he, hsequence, hendHash.trans (hlinkedBlock.endHash_eq he ?_)⟩
    rw [hsequence]
    omega

/-- In every state that the writers reach, every range of the chain is verified without a failure, from the
chain hash before it to the last of it. -/
theorem verification_valid {start : AuditTables} {log : AuditLog} {first last : Int} (now : Time)
    (tenantID : String) (hstart : start.Unchained) (h : Reached crypto start log) (hfirst : 1 ≤ first)
    (hle : first ≤ last) (hlast : last ≤ (log.tables.headOf tenantID).1) :
    RangeVerified log.tables tenantID first last
      (verifyAuditChain crypto now tenantID first last log.tables) :=
  (h.intact hstart).tables.rangeVerified hfirst hle hlast

theorem verification_valid_mixed :
    ((performAll .standard mixedOps ⟨oldTables, []⟩).tables.headOf "ten_1").1 = 3 ∧
      (verifyAuditChain .standard 0 "ten_1" 2 3 (performAll .standard mixedOps ⟨oldTables, []⟩).tables).valid = true :=
  ⟨by decide +kernel,
    (verification_valid 0 "ten_1" ⟨rfl, rfl, by decide⟩ reached_mixedOps (by decide) (by decide)
      (by decide +kernel)).valid⟩

end Webhookery.Audit
