import Webhookery.Signals.System
import Webhookery.Audit.Verification

/-!
# Batches of chain entries

What `buildSIEMBatch` makes of an intact chain: the batch begins right after the cursor, has a hundred entries
or all that are left, and its body has a line for each of them. A batch stays one of the chain, as chain
entries keep everything but the columns of their tombstone.
-/

namespace Webhookery.Signals

open Go Relational Audit AuditTables

variable {crypto : Crypto} {audit audit' : AuditTables} {tenantID : String} {cursor : Int} {limit : Nat}

/-- A body of lines of chain entries, one of them that of the given entry, with the columns it had then. -/
def Carries (tenantID : String) (entry : AuditChainEntry) (body : Bytes) : Prop :=
  ∃ rows : List (AuditChainEntry × AuditEvent),
    body = rows.flatMap (fun row ↦ siemLine tenantID row.1 row.2) ∧ ∃ row ∈ rows, row.1.frame = entry.frame

/-- A range of sequence numbers with a body that carries the entries of the chain with these numbers. -/
structure BatchOf (audit : AuditTables) (tenantID : String) (range : SequenceRange) (body : Bytes) : Prop where
  first : 1 ≤ range.fromSequence
  ordered : range.fromSequence ≤ range.toSequence
  carries : ∀ k, range.fromSequence ≤ k → k ≤ range.toSequence →
    ∃ entry ∈ audit.chainOf tenantID, entry.sequence = k ∧ Carries tenantID entry body

theorem BatchOf.mono (h : BatchOf audit tenantID range body)
    (hkept : EntriesKept audit audit') : BatchOf audit' tenantID range body where
  first := h.first
  ordered := h.ordered
  carries k hfrom hto := by
    obtain ⟨entry, hentry, hsequence, rows, hbody, row, hrow, hframe⟩ := h.carries k hfrom hto
    obtain ⟨hmem, htenant⟩ := mem_chainOf.mp hentry
    obtain ⟨entry', hentry', hframe'⟩ := hkept entry hmem
    have htenant' : entry'.tenantID = entry.tenantID := (congrArg AuditChainEntry.tenantID hframe' :)
    have hsequence' : entry'.sequence = entry.sequence := (congrArg AuditChainEntry.sequence hframe' :)
    exact ⟨entry', mem_chainOf.mpr ⟨hentry', htenant'.trans htenant⟩, hsequence'.trans hsequence, rows, hbody, row,
      hrow, hframe.trans hframe'.symm⟩

/-- A batch ends within the chain. -/
theorem BatchOf.toSequence_le (h : BatchOf audit tenantID range body)
    (hsound : Sound crypto audit) : range.toSequence ≤ (audit.chainOf tenantID).length := by
  obtain ⟨entry, hentry, _, -⟩ := h.carries range.toSequence h.ordered le_rfl
  have hbounds := (hsound.linked tenantID).bounds hentry
  change 1 ≤ entry.sequence ∧ entry.sequence < _ at hbounds
  omega

/-! ## The entries after a cursor -/

/-- The entries after a cursor are the next ones of the chain, as many as are left or the limit allows. -/
theorem entriesAfter_spec (limit : Nat) (hsound : Sound crypto audit) (hcursor : 0 ≤ cursor)
    (hle : cursor ≤ (audit.chainOf tenantID).length) :
    ∃ hash, (links crypto).Linked (cursor + 1) hash (entriesAfter tenantID cursor limit audit) ∧
      ((entriesAfter tenantID cursor limit audit).length : Int) =
        min (limit : Int) ((audit.chainOf tenantID).length - cursor) ∧
      ∀ entry ∈ entriesAfter tenantID cursor limit audit, entry ∈ audit.chainOf tenantID := by
  have hlinked := hsound.linked tenantID
  obtain ⟨_, after, hrows, hfilter, hbefore⟩ :=
    hlinked.exists_suffix (by omega : 1 ≤ cursor + 1) (by omega : cursor + 1 ≤ 1 + (audit.chainOf tenantID).length)
  have hsorted : ((audit.chainOf tenantID).filter fun e ↦ cursor < e.sequence).Pairwise
      fun e e' ↦ e.sequence ≤ e'.sequence :=
    (hlinked.sorted.filter _).imp fun hlt ↦ le_of_lt hlt
  have hentries : entriesAfter tenantID cursor limit audit = after.take limit := by
    rw [entriesAfter, hsorted.insertionSort_eq]
    exact congrArg (List.take limit) hfilter
  have hlength := congrArg List.length hrows
  rw [List.length_append] at hlength
  rw [hrows, Links.linked_append, hbefore, ← List.take_append_drop limit after, Links.linked_append] at hlinked
  rw [hentries]
  refine ⟨_, hlinked.2.1, ?_, ?_⟩
  · rw [List.length_take]
    omega
  · intro entry hentry
    rw [hrows]
    exact List.mem_append_right _ (List.mem_of_mem_take hentry)

/-! ## The loop over the rows -/

/-- A batch that has begun grows by the lines of consecutive entries. -/
theorem foldl_addEntry {rows : List AuditChainEntry} {n : Int} {hash : String} {batch : SIEMBatch}
    (hlinked : (links crypto).Linked n hash rows) (hbegun : batch.range.fromSequence ≠ 0)
    (hnext : batch.range.toSequence + 1 = n) :
    rows.foldl (addEntry tenantID audit) batch =
      ⟨batch.body ++ rows.flatMap (fun entry ↦ siemLine tenantID entry (audit.joinedEvent entry)),
        ⟨batch.range.fromSequence, batch.range.toSequence + rows.length⟩⟩ := by
  induction rows generalizing n hash batch with
  | nil => simp
  | cons entry _ ih =>
    obtain ⟨hsequence, -, -, hrest⟩ := hlinked
    have hsequence : entry.sequence = n := hsequence
    generalize hnew : addEntry tenantID audit batch entry = new
    have hadd : new =
        ⟨batch.body ++ siemLine tenantID entry (audit.joinedEvent entry), ⟨batch.range.fromSequence, n⟩⟩ := by
      rw [← hnew, addEntry, if_neg hbegun, hsequence]
    rw [List.foldl_cons, hnew, ih hrest (by rw [hadd]; exact hbegun) (by rw [hadd]), hadd]
    simp only [List.flatMap_cons, List.append_assoc, List.length_cons, SIEMBatch.mk.injEq, SequenceRange.mk.injEq,
      true_and]
    push_cast
    omega

/-- What a batch is, for a cursor within an intact chain. -/
theorem buildSIEMBatch_eq (hsound : Sound crypto audit) (hcursor : 0 ≤ cursor)
    (hle : cursor ≤ (audit.chainOf tenantID).length) (hlimit : 0 < limit) :
    buildSIEMBatch tenantID cursor limit audit =
      if cursor = (audit.chainOf tenantID).length then none
      else some ⟨(entriesAfter tenantID cursor limit audit).flatMap
          (fun entry ↦ siemLine tenantID entry (audit.joinedEvent entry)),
        ⟨cursor + 1, min (cursor + limit) (audit.chainOf tenantID).length⟩⟩ := by
  obtain ⟨_, hlinked, hlength, -⟩ := entriesAfter_spec limit hsound hcursor hle
  rw [buildSIEMBatch]
  generalize entriesAfter tenantID cursor limit audit = rows at hlinked hlength ⊢
  cases rows with
  | nil =>
    rw [List.length_nil] at hlength
    rw [if_pos (by omega : cursor = (audit.chainOf tenantID).length)]
    rfl
  | cons entry rows =>
    rw [List.length_cons] at hlength
    push_cast at hlength
    rw [if_neg (by omega : ¬cursor = (audit.chainOf tenantID).length)]
    obtain ⟨hsequence, -, -, hrest⟩ := hlinked
    have hsequence : entry.sequence = cursor + 1 := hsequence
    have hadd : addEntry tenantID audit ⟨[], ⟨0, 0⟩⟩ entry =
        ⟨siemLine tenantID entry (audit.joinedEvent entry), ⟨cursor + 1, cursor + 1⟩⟩ := by
      rw [addEntry, if_pos rfl, hsequence]
      rfl
    rw [List.foldl_cons, hadd, foldl_addEntry hrest (by dsimp only; omega) rfl]
    have hto : cursor + 1 + (rows.length : Int) = min (cursor + limit) (audit.chainOf tenantID).length := by omega
    dsimp only
    rw [hto, if_neg (by omega), List.flatMap_cons]

/-- A batch carries its entries. -/
theorem batchOf_buildSIEMBatch (hsound : Sound crypto audit) (hcursor : 0 ≤ cursor)
    (hle : cursor ≤ (audit.chainOf tenantID).length) (hlimit : 0 < limit)
    (h : buildSIEMBatch tenantID cursor limit audit = some batch) :
    batch.range.fromSequence = cursor + 1 ∧ BatchOf audit tenantID batch.range batch.body := by
  rw [buildSIEMBatch_eq hsound hcursor hle hlimit] at h
  split at h
  case isTrue => cases h
  case isFalse =>
    cases h
    obtain ⟨_, hlinked, _, hmem⟩ := entriesAfter_spec limit hsound hcursor hle
    refine ⟨rfl, by dsimp only; omega, by dsimp only; omega, fun k hfrom hto ↦ ?_⟩
    dsimp only at hfrom hto
    obtain ⟨entry, hentry, hsequence⟩ := hlinked.exists_row hfrom (by omega)
    refine ⟨entry, hmem entry hentry, hsequence,
      (entriesAfter tenantID cursor limit audit).map fun e ↦ (e, audit.joinedEvent e), ?_, (entry, audit.joinedEvent entry),
      List.mem_map_of_mem hentry, rfl⟩
    rw [List.flatMap_map]

end Webhookery.Signals
