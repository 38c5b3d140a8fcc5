import Mathlib.Data.List.Basic
import Mathlib.Data.List.Induction
import Mathlib.Data.List.Nodup
import Mathlib.Tactic.Ring

/-!
# Hash chains

Numbered rows in which each carries the hash of the one before it and its own hash over that and its payload.
A chain is linked from a number and a hash; linked chains are cut and joined at any row, so a block of a
chain is linked from the hash before it. When links can be told apart, the last hash determines every
payload.
-/

namespace Webhookery.Relational

variable {R P H : Type}

/-- How the rows of a chain are read, and the hash of a link. -/
structure Links (R P H : Type) where
  sequence : R → Int
  payload : R → P
  previous : R → H
  hash : R → H
  link : H → P → H

namespace Links

variable (L : Links R P H)

/-- The hash after some rows: that of the last one. -/
def endHash (start : H) (rows : List R) : H := rows.foldl (fun _ r ↦ L.hash r) start

/-- Rows with consecutive numbers, each linked to the one before it. -/
def Linked : Int → H → List R → Prop
  | _, _, [] => True
  | n, start, r :: rest =>
    L.sequence r = n ∧ L.previous r = start ∧ L.hash r = L.link start (L.payload r) ∧
      Linked (n + 1) (L.hash r) rest

variable {L} {n : Int} {start : H} {rows xs ys : List R} {r r' : R}

@[simp]
theorem endHash_nil : L.endHash start [] = start := rfl

@[simp]
theorem endHash_cons : L.endHash start (r :: rows) = L.endHash (L.hash r) rows := rfl

theorem endHash_concat : L.endHash start (xs ++ [r]) = L.hash r := by
  rw [endHash, List.foldl_append]
  rfl

/-- A chain is linked when its first part is and its second part is linked from there. -/
theorem linked_append :
    L.Linked n start (xs ++ ys) ↔
      L.Linked n start xs ∧ L.Linked (n + xs.length) (L.endHash start xs) ys := by
  induction xs generalizing n start with
  | nil => simp [Linked]
  | cons x xs ih =>
    have hlength : n + ((x :: xs).length : Int) = n + 1 + (xs.length : Int) := by
      rw [List.length_cons]
      push_cast
      ring
    rw [List.cons_append, Linked, Linked, ih, hlength, endHash_cons]
    tauto

/-- Rows that are read alike are linked alike. -/
theorem linked_map {f : R → R} (hseq : ∀ r, L.sequence (f r) = L.sequence r)
    (hpayload : ∀ r, L.payload (f r) = L.payload r) (hprevious : ∀ r, L.previous (f r) = L.previous r)
    (hhash : ∀ r, L.hash (f r) = L.hash r) : L.Linked n start (rows.map f) ↔ L.Linked n start rows := by
  induction rows generalizing n start with
  | nil => exact Iff.rfl
  | cons _ _ ih => rw [List.map_cons, Linked, Linked, hseq, hpayload, hprevious, hhash, ih]

theorem endHash_map {f : R → R} (hhash : ∀ r, L.hash (f r) = L.hash r) :
    L.endHash start (rows.map f) = L.endHash start rows := by
  simp only [endHash, List.foldl_map, hhash]

section

variable (h : L.Linked n start rows)
include h

/-- The number of a row is its place. -/
theorem Linked.sequence_eq {k : Nat} (hk : rows[k]? = some r) : L.sequence r = n + k := by
  induction rows generalizing n start k with
  | nil => cases hk
  | cons x _ ih =>
    obtain ⟨hn, -, -, hrest⟩ := h
    cases k with
    | zero =>
      obtain rfl : x = r := Option.some.inj hk
      simpa using hn
    | succ =>
      rw [ih hrest hk]
      push_cast
      ring

theorem Linked.bounds (hr : r ∈ rows) : n ≤ L.sequence r ∧ L.sequence r < n + rows.length := by
  obtain ⟨k, hk⟩ := List.mem_iff_getElem?.mp hr
  have hlt : k < rows.length := (List.getElem?_eq_some_iff.mp hk).1
  rw [h.sequence_eq hk]
  omega

/-- Every number of the range belongs to a row. -/
theorem Linked.exists_row {m : Int} (hlow : n ≤ m) (hhigh : m < n + rows.length) : ∃ r ∈ rows, L.sequence r = m := by
  have hlt : (m - n).toNat < rows.length := by omega
  have hk : rows[(m - n).toNat]? = some rows[(m - n).toNat] := List.getElem?_eq_getElem hlt
  refine ⟨_, List.getElem_mem hlt, ?_⟩
  rw [h.sequence_eq hk]
  omega

theorem Linked.exists_sequence_iff {m : Int} : (∃ r ∈ rows, L.sequence r = m) ↔ n ≤ m ∧ m < n + rows.length := by
  constructor
  · rintro ⟨r, hr, rfl⟩
    exact h.bounds hr
  · exact fun hm ↦ h.exists_row hm.1 hm.2

theorem Linked.sorted : rows.Pairwise fun r r' ↦ L.sequence r < L.sequence r' := by
  induction rows generalizing n start with
  | nil => exact .nil
  | cons _ _ ih =>
    obtain ⟨_, -, -, hrest⟩ := h
    refine List.pairwise_cons.mpr ⟨fun r hr ↦ ?_, ih hrest⟩
    have hbounds := hrest.bounds hr
    omega

/-- A number belongs to one row. -/
theorem Linked.eq_of_sequence (hr : r ∈ rows) (hr' : r' ∈ rows) (hseq : L.sequence r = L.sequence r') : r = r' := by
  have hnodup : (rows.map L.sequence).Nodup := List.pairwise_map.mpr (h.sorted.imp fun hlt ↦ hlt.ne)
  exact List.inj_on_of_nodup_map hnodup hr hr' hseq

/-- Every row carries the hash over its link. -/
theorem Linked.hash_eq (hr : r ∈ rows) : L.hash r = L.link (L.previous r) (L.payload r) := by
  induction rows generalizing n start with
  | nil => cases hr
  | cons _ _ ih =>
    obtain ⟨-, hstart, hlink, hrest⟩ := h
    rcases List.mem_cons.mp hr with rfl | hr
    · rw [hlink, hstart]
    · exact ih hrest hr

/-- The first row is linked to the start. -/
theorem Linked.previous_of_first (hr : r ∈ rows) (hseq : L.sequence r = n) : L.previous r = start := by
  cases rows with
  | nil => cases hr
  | cons =>
    obtain ⟨-, hstart, -, hrest⟩ := h
    rcases List.mem_cons.mp hr with rfl | hr
    · exact hstart
    · have hbounds := hrest.bounds hr
      omega

/-- Every other row is linked to the row before it. -/
theorem Linked.previous_eq (hr : r ∈ rows) (hr' : r' ∈ rows)
    (hseq : L.sequence r' = L.sequence r + 1) : L.previous r' = L.hash r := by
  induction rows generalizing n start with
  | nil => cases hr
  | cons x rows ih =>
    obtain ⟨_, -, -, hrest⟩ := h
    rcases List.mem_cons.mp hr with rfl | _
    · rcases List.mem_cons.mp hr' with rfl | hr'
      · omega
      · exact hrest.previous_of_first hr' (by omega)
    · rcases List.mem_cons.mp hr' with rfl | hr'
      · have hbounds := hrest.bounds ‹r ∈ rows›
        omega
      · exact ih hrest ‹r ∈ rows› hr'

/-- The hash after the whole chain is that of its row with the last number, wherever the chain starts. -/
theorem Linked.endHash_eq {start' : H} (hr : r ∈ rows)
    (hseq : L.sequence r + 1 = n + rows.length) : L.endHash start' rows = L.hash r := by
  obtain ⟨_, x, rfl⟩ := (List.eq_nil_or_concat' rows).resolve_left (List.ne_nil_of_mem hr)
  rw [List.length_append, List.length_singleton] at hseq
  have hr : r = x := by
    refine (List.mem_append.mp hr).elim (fun hxs ↦ ?_) List.mem_singleton.mp
    have hbounds := (linked_append.mp h).1.bounds hxs
    omega
  rw [endHash_concat, hr]

/-- A row that is not the first one is linked to some row. -/
theorem Linked.exists_previous (hr : r ∈ rows) (hne : L.sequence r ≠ n) : ∃ r' ∈ rows, L.previous r = L.hash r' := by
  have hbounds := h.bounds hr
  obtain ⟨r', hr', _⟩ := h.exists_row (by omega : n ≤ L.sequence r - 1) (by omega)
  exact ⟨r', hr', h.previous_eq hr' hr (by omega)⟩

/-- The rows up to a number are linked from the same start. -/
theorem Linked.filter_le (m : Int) : L.Linked n start (rows.filter fun r ↦ L.sequence r ≤ m) := by
  induction rows generalizing n start with
  | nil => trivial
  | cons x rows ih =>
    obtain ⟨hn, hstart, hlink, hrest⟩ := h
    by_cases hle : n ≤ m
    · rw [List.filter_cons_of_pos (by simpa [hn] using hle)]
      exact ⟨hn, hstart, hlink, ih hrest⟩
    · have hnone : (x :: rows).filter (fun r ↦ L.sequence r ≤ m) = [] := by
        refine List.filter_eq_nil_iff.mpr (List.forall_mem_cons.mpr ⟨?_, fun r hr ↦ ?_⟩)
        · simp only [decide_eq_true_eq]
          omega
        · have hbounds := hrest.bounds hr
          simp only [decide_eq_true_eq]
          omega
      rw [hnone]
      trivial

/-- Some rows of a chain, when no row has the hash of the start: they are linked from the start exactly when they
are the rows up to a number, or none. -/
theorem Linked.filter_iff (hstart : ∀ r ∈ rows, L.hash r ≠ start) (p : R → Bool) :
    (∃ m, L.Linked m start (rows.filter p)) ↔ ∃ m, ∀ r ∈ rows, p r = true ↔ L.sequence r ≤ m := by
  constructor
  · rintro ⟨k, hlinked⟩
    cases hrows : rows.filter p with
    | nil =>
      refine ⟨n - 1, fun r hr ↦ iff_of_false (List.filter_eq_nil_iff.mp hrows r hr) ?_⟩
      have hbounds := h.bounds hr
      omega
    | cons x =>
      have hx : x ∈ rows := List.mem_of_mem_filter (hrows ▸ List.mem_cons_self)
      -- the first of them is the first row of all, since every other one is linked to a row
      obtain rfl : k = n := by
        by_contra hne
        rw [hrows] at hlinked
        obtain ⟨r', hr', hprevious⟩ := h.exists_previous hx fun hseq ↦ hne (hlinked.1.symm.trans hseq)
        exact hstart r' hr' (hprevious.symm.trans hlinked.2.1)
      refine ⟨k + (rows.filter p).length - 1, fun r hr ↦ ⟨fun hp ↦ ?_, fun hle ↦ ?_⟩⟩
      · have hbounds := hlinked.bounds (List.mem_filter.mpr ⟨hr, hp⟩)
        omega
      · have hbounds := h.bounds hr
        obtain ⟨_, hr', hseq⟩ := hlinked.exists_row hbounds.1 (by omega)
        obtain ⟨hmem, hp⟩ := List.mem_filter.mp hr'
        exact h.eq_of_sequence hmem hr hseq ▸ hp
  · rintro ⟨m, hm⟩
    refine ⟨n, ?_⟩
    have hfilter : rows.filter p = rows.filter fun r ↦ L.sequence r ≤ m := by
      refine List.filter_congr fun r hr ↦ ?_
      rw [Bool.eq_iff_iff, hm r hr, decide_eq_true_iff]
    exact hfilter ▸ h.filter_le m

/-! ## Blocks -/

/-- The rows with numbers between two bounds form a block: what is before and after them is cut off. -/
theorem Linked.exists_block {lo hi : Int} (hlo : n ≤ lo) (hle : lo ≤ hi + 1) (hhi : hi < n + rows.length) :
    ∃ before block after, rows = before ++ (block ++ after) ∧
      rows.filter (fun r ↦ lo ≤ L.sequence r ∧ L.sequence r ≤ hi) = block ∧
      n + before.length = lo ∧ lo + block.length = hi + 1 := by
  generalize hbefore : rows.take (lo - n).toNat = before
  generalize hblock : (rows.drop (lo - n).toNat).take (hi + 1 - lo).toNat = block
  generalize hafter : (rows.drop (lo - n).toNat).drop (hi + 1 - lo).toNat = after
  have hrows : rows = before ++ (block ++ after) := by
    rw [← hbefore, ← hblock, ← hafter, List.take_append_drop, List.take_append_drop]
  have hlength : n + before.length = lo := by
    rw [← hbefore, List.length_take]
    omega
  have hlength' : lo + block.length = hi + 1 := by
    rw [← hblock, List.length_take, List.length_drop]
    omega
  rw [hrows, linked_append, linked_append, hlength, hlength'] at h
  obtain ⟨hlinked, hlinked', hlinked''⟩ := h
  refine ⟨before, block, after, hrows, ?_, hlength, hlength'⟩
  rw [hrows, List.filter_append, List.filter_append]
  have hnone : before.filter (fun r ↦ lo ≤ L.sequence r ∧ L.sequence r ≤ hi) = [] := by
    refine List.filter_eq_nil_iff.mpr fun r hr ↦ ?_
    have hbounds := hlinked.bounds hr
    simp only [decide_eq_true_eq]
    omega
  have hall : block.filter (fun r ↦ lo ≤ L.sequence r ∧ L.sequence r ≤ hi) = block := by
    refine List.filter_eq_self.mpr fun r hr ↦ ?_
    have hbounds := hlinked'.bounds hr
    simp only [decide_eq_true_eq]
    omega
  have hnone' : after.filter (fun r ↦ lo ≤ L.sequence r ∧ L.sequence r ≤ hi) = [] := by
    refine List.filter_eq_nil_iff.mpr fun r hr ↦ ?_
    have hbounds := hlinked''.bounds hr
    simp only [decide_eq_true_eq]
    omega
  rw [hnone, hall, hnone', List.nil_append, List.append_nil]

/-- The rows after a number are the end of the chain. -/
theorem Linked.exists_suffix {m : Int} (hlow : n ≤ m + 1) (hhigh : m + 1 ≤ n + rows.length) :
    ∃ before after, rows = before ++ after ∧ rows.filter (fun r ↦ m < L.sequence r) = after ∧
      n + before.length = m + 1 := by
  obtain ⟨before, block, after, hrows, hfilter, hbefore, _⟩ :=
    h.exists_block hlow (by omega : m + 1 ≤ (n + rows.length - 1) + 1) (by omega)
  have hnil : after = [] := by
    have hlength := congrArg List.length hrows
    simp only [List.length_append] at hlength
    exact List.eq_nil_of_length_eq_zero (by omega)
  refine ⟨before, block, ?_, ?_, hbefore⟩
  · rw [hnil, List.append_nil] at hrows
    exact hrows
  · rw [← hfilter]
    apply List.filter_congr
    intro r hr
    have hbounds := h.bounds hr
    rw [decide_eq_decide]
    omega

/-! ## What the last hash determines -/

end

/-- Chains from the same start with the same last hash have the same payloads: the last links are equal, and
so are their payloads and the hashes before them. No link gives the start, so neither chain is longer. -/
theorem Linked.payloads_eq (hlink : ∀ {h h' : H} {p p' : P}, L.link h p = L.link h' p' → h = h' ∧ p = p')
    (hstart : ∀ (h : H) (p : P), L.link h p ≠ start) (hxs : L.Linked n start xs) (hys : L.Linked n start ys)
    (hend : L.endHash start xs = L.endHash start ys) : xs.map L.payload = ys.map L.payload := by
  have hlast {zs : List R} {z : R} (h : L.Linked n start (zs ++ [z])) :
      L.endHash start (zs ++ [z]) = L.link (L.endHash start zs) (L.payload z) := by
    rw [endHash_concat]
    exact (linked_append.mp h).2.2.2.1
  induction xs using List.reverseRecOn generalizing ys with
  | nil =>
    rcases List.eq_nil_or_concat' ys with rfl | ⟨_, y, rfl⟩
    · rfl
    · rw [hlast hys] at hend
      exact absurd hend.symm (hstart _ _)
  | append_singleton _ _ ih =>
    rw [hlast hxs] at hend
    rcases List.eq_nil_or_concat' ys with rfl | ⟨_, y, rfl⟩
    · exact absurd hend (hstart _ _)
    · rw [hlast hys] at hend
      obtain ⟨hbefore, hpayload⟩ := hlink hend
      have hmaps := ih (linked_append.mp hxs).1 (linked_append.mp hys).1 hbefore
      rw [List.map_append, List.map_append, hmaps, List.map_singleton, List.map_singleton, hpayload]

/-- Rows with the same number then have the same payload. -/
theorem Linked.payload_eq {start' : H} (hxs : L.Linked n start xs) (hys : L.Linked n start' ys)
    (h : xs.map L.payload = ys.map L.payload) (hr : r ∈ xs) (hr' : r' ∈ ys)
    (hseq : L.sequence r = L.sequence r') : L.payload r = L.payload r' := by
  obtain ⟨k, hk⟩ := List.mem_iff_getElem?.mp hr
  obtain ⟨k', hk'⟩ := List.mem_iff_getElem?.mp hr'
  obtain rfl : k = k' := by
    rw [hxs.sequence_eq hk, hys.sequence_eq hk'] at hseq
    omega
  have hget := congrArg (fun payloads : List P ↦ payloads[k]?) h
  simpa [hk, hk'] using hget

/-- And they carry the same hashes. -/
theorem Linked.hashes_eq (hxs : L.Linked n start xs) (hys : L.Linked n start ys)
    (h : xs.map L.payload = ys.map L.payload) (hr : r ∈ xs) (hr' : r' ∈ ys)
    (hseq : L.sequence r = L.sequence r') : L.previous r = L.previous r' ∧ L.hash r = L.hash r' := by
  induction xs generalizing n start ys with
  | nil => cases hr
  | cons x _ ih =>
    cases ys with
    | nil => cases hr'
    | cons y =>
      obtain ⟨hpayload, hpayloads⟩ := List.cons.inj h
      obtain ⟨_, hprevious, hhash, hxs⟩ := hxs
      obtain ⟨_, hprevious', hhash', hys⟩ := hys
      have hsame : L.hash x = L.hash y := by rw [hhash, hhash', hpayload]
      rcases List.mem_cons.mp hr with rfl | hr
      · rcases List.mem_cons.mp hr' with rfl | hr'
        · exact ⟨hprevious.trans hprevious'.symm, hsame⟩
        · have hbounds := hys.bounds hr'
          omega
      · rcases List.mem_cons.mp hr' with rfl | hr'
        · have hbounds := hxs.bounds hr
          omega
        · rw [← hsame] at hys
          exact ih hxs hys hpayloads hr hr'

end Links

end Webhookery.Relational
