import Mathlib.Data.List.Forall2
import Mathlib.Data.List.Nodup
import Mathlib.Data.List.Pairwise

/-!
# Tables

A table is a list of rows in insertion order with a primary key and one unique index. Both are
fields of the table, so a table that violates a constraint cannot be built: an insertion that
would violate one has no result. A row whose index entry is none is not in the index.
-/

namespace Webhookery.Relational

variable {α κ ι : Type} {key : α → κ} {index : α → Option ι}

/-- Rows with distinct keys and distinct index entries. -/
structure Table (α : Type) {κ ι : Type} (key : α → κ) (index : α → Option ι) where
  rows : List α
  key_nodup : (rows.map key).Nodup
  index_nodup : (rows.filterMap index).Nodup

/-- The order in which a query meets rows; it returns in this order what it does not order otherwise. -/
structure Scan (α : Type) where
  order : List α → List α
  perm : ∀ rows, (order rows).Perm rows

/-- The order of the list itself. -/
def Scan.sequential : Scan α := ⟨fun rows ↦ rows, fun _ ↦ .refl _⟩

namespace Table

/-- The table without rows. -/
def empty : Table α key index := ⟨[], List.nodup_nil, List.nodup_nil⟩

instance : Membership α (Table α key index) := ⟨fun t r ↦ r ∈ t.rows⟩

theorem mem_def {t : Table α key index} {r : α} : r ∈ t ↔ r ∈ t.rows := Iff.rfl

@[simp]
theorem not_mem_empty (r : α) : r ∉ (empty : Table α key index) := List.not_mem_nil

/-- A row may be added when neither its key nor its index entry is taken. -/
def Fits (t : Table α key index) (x : α) : Prop :=
  (∀ r ∈ t.rows, key r ≠ key x) ∧ ∀ r ∈ t.rows, index x = none ∨ index r ≠ index x

instance [DecidableEq κ] [DecidableEq ι] (t : Table α key index) (x : α) : Decidable (t.Fits x) :=
  inferInstanceAs (Decidable (_ ∧ _))

/-- The table with one more row. -/
def insert (t : Table α key index) (x : α) (h : t.Fits x) : Table α key index where
  rows := t.rows ++ [x]
  key_nodup := by
    rw [List.map_append, List.nodup_append]
    refine ⟨t.key_nodup, by simp, ?_⟩
    intro a ha b hb
    obtain ⟨r, hr, rfl⟩ := List.mem_map.mp ha
    obtain rfl : b = key x := by simpa using hb
    exact h.1 r hr
  index_nodup := by
    rw [List.filterMap_append, List.nodup_append]
    refine ⟨t.index_nodup, ?_, ?_⟩
    · cases hx : index x <;> simp [hx]
    · intro a ha b hb
      obtain ⟨r, hr, hra⟩ := List.mem_filterMap.mp ha
      have hxb : index x = some b := by simpa [List.mem_filterMap] using hb
      rintro rfl
      rcases h.2 r hr with hnone | hne
      · simp [hnone] at hxb
      · exact hne (hra.trans hxb.symm)

/-- `INSERT`: none when a constraint is violated. -/
def insert? [DecidableEq κ] [DecidableEq ι] (t : Table α key index) (x : α) : Option (Table α key index) :=
  if h : t.Fits x then some (t.insert x h) else none

/-- `UPDATE` by a function that leaves keys and index entries alone. -/
def modify (t : Table α key index) (f : α → α) (hkey : ∀ r, key (f r) = key r)
    (hindex : ∀ r, index (f r) = index r) : Table α key index where
  rows := t.rows.map f
  key_nodup := by
    have hcomp : key ∘ f = key := funext hkey
    rw [List.map_map, hcomp]
    exact t.key_nodup
  index_nodup := by
    have hcomp : index ∘ f = index := funext hindex
    rw [List.filterMap_map, hcomp]
    exact t.index_nodup

/-- `UPDATE` by any function: none when a constraint is violated. -/
def modify? [DecidableEq κ] [DecidableEq ι] (t : Table α key index) (f : α → α) : Option (Table α key index) :=
  if h : ((t.rows.map f).map key).Nodup ∧ ((t.rows.map f).filterMap index).Nodup then
    some ⟨t.rows.map f, h.1, h.2⟩
  else none

/-- `UPDATE` of the row with the key of `x`, which `x` takes the place of. -/
def replace [DecidableEq κ] (t : Table α key index) (x : α)
    (hindex : ∀ r, key r = key x → index x = index r) : Table α key index :=
  t.modify (fun r ↦ if key r = key x then x else r)
    (fun r ↦ by split; exacts [Eq.symm ‹_›, rfl]) (fun r ↦ by split; exacts [hindex r ‹_›, rfl])

/-- `DELETE` of the rows with a property. -/
def delete (t : Table α key index) (p : α → Bool) : Table α key index where
  rows := t.rows.filter (!p ·)
  key_nodup := t.key_nodup.sublist (List.filter_sublist.map key)
  index_nodup := t.index_nodup.sublist (List.filter_sublist.filterMap index)

/-! ## Reading -/

/-- The first row with a property. -/
def find? (t : Table α key index) (p : α → Bool) : Option α := t.rows.find? p

/-- The row of an index entry. -/
def byIndex [DecidableEq ι] (t : Table α key index) (i : ι) : Option α :=
  t.rows.find? fun r ↦ index r = some i

/-- The better of the best row so far and the next row. -/
def better (before : α → α → Bool) (best : Option α) (r : α) : Option α :=
  match best with
  | none => some r
  | some b => if before r b then some r else some b

/-- The first row with a property in the order `before`, the one that a scan meets first of equal ones:
`ORDER BY ... LIMIT 1`. -/
def firstIn (t : Table α key index) (scan : Scan α) (p : α → Bool) (before : α → α → Bool) : Option α :=
  ((scan.order t.rows).filter p).foldl (better before) none

/-- The earliest inserted of equal ones. -/
def firstBy (t : Table α key index) (p : α → Bool) (before : α → α → Bool) : Option α :=
  t.firstIn .sequential p before

section Lemmas

variable {t t' : Table α key index} {x r r' : α} {p : α → Bool} {i : ι}

theorem not_mem_of_rows_eq_nil (h : t.rows = []) : r ∉ t := by
  rw [mem_def, h]
  exact List.not_mem_nil

theorem rows_insert? [DecidableEq κ] [DecidableEq ι] (h : t.insert? x = some t') : t'.rows = t.rows ++ [x] := by
  unfold insert? at h
  split at h
  · cases h
    rfl
  · cases h

theorem fits_of_insert? [DecidableEq κ] [DecidableEq ι] (h : t.insert? x = some t') : t.Fits x := by
  unfold insert? at h
  split at h
  · assumption
  · cases h

theorem exists_insert? [DecidableEq κ] [DecidableEq ι] (h : t.Fits x) : ∃ t', t.insert? x = some t' :=
  ⟨t.insert x h, dif_pos h⟩

theorem mem_insert? [DecidableEq κ] [DecidableEq ι] (h : t.insert? x = some t') : r ∈ t' ↔ r ∈ t ∨ r = x := by
  rw [mem_def, rows_insert? h, List.mem_append, List.mem_singleton, mem_def]

theorem mem_delete : r ∈ t.delete p ↔ r ∈ t ∧ p r = false := by
  rw [mem_def, delete, List.mem_filter, Bool.not_eq_true', mem_def]

theorem mem_replace [DecidableEq κ] {hindex : ∀ r, key r = key x → index x = index r}
    (h : r ∈ t.replace x hindex) : r = x ∨ r ∈ t ∧ key r ≠ key x := by
  obtain ⟨_, hr₀, hr⟩ := List.mem_map.mp h
  split at hr
  · exact .inl hr.symm
  case isFalse hne =>
    rw [← hr]
    exact .inr ⟨hr₀, hne⟩

theorem exists_key_replace [DecidableEq κ] (hindex : ∀ r, key r = key x → index x = index r) {k : κ}
    (h : ∃ r ∈ t, key r = k) : ∃ r ∈ t.replace x hindex, key r = k := by
  obtain ⟨_, hr, rfl⟩ := h
  refine ⟨_, List.mem_map_of_mem hr, ?_⟩
  split
  · exact Eq.symm ‹_›
  · rfl

/-- A row is found under its key before and after an update. -/
theorem find?_replace [DecidableEq κ] (hindex : ∀ r, key r = key x → index x = index r) (k : κ) :
    (t.replace x hindex).find? (key · == k) =
      (t.find? (key · == k)).map fun r ↦ if key r = key x then x else r := by
  have hkey : ((key · == k) ∘ fun r ↦ if key r = key x then x else r) = (key · == k) := by
    funext r
    simp only [Function.comp_apply]
    split
    case isTrue h => rw [h]
    case isFalse => rfl
  rw [find?, replace, modify, List.find?_map, hkey]
  rfl

/-- An update that changes no row. -/
theorem eq_of_rows_map {f : α → α} (hrows : t'.rows = t.rows.map f) (h : ∀ r ∈ t, f r = r) : t' = t := by
  rw [List.map_congr_left h, List.map_id'] at hrows
  cases t
  cases t'
  simpa using hrows

/-- An update of the row inserted last. -/
theorem map_rows_insert? [DecidableEq κ] [DecidableEq ι] {f : α → α} (h : t.insert? x = some t')
    (hf : ∀ r, key r ≠ key x → f r = r) : t'.rows.map f = t.rows ++ [f x] := by
  have hold : t.rows.map f = t.rows := by
    rw [List.map_congr_left fun r hr ↦ hf r ((fits_of_insert? h).1 r hr), List.map_id']
  calc t'.rows.map f = (t.rows ++ [x]).map f := by rw [rows_insert? h]
    _ = t.rows.map f ++ [f x] := by simp
    _ = t.rows ++ [f x] := by rw [hold]

/-- Rows with the same key are the same row. -/
theorem eq_of_key_eq (hr : r ∈ t) (hr' : r' ∈ t) (h : key r = key r') : r = r' :=
  List.inj_on_of_nodup_map t.key_nodup hr hr' h

theorem mem_append {new : List α} (h : t'.rows = t.rows ++ new) : r ∈ t' ↔ r ∈ t ∨ r ∈ new := by
  rw [mem_def, h, List.mem_append]
  rfl

theorem mem_of_rows_append (h : t'.rows = t.rows ++ [x]) : r ∈ t' ↔ r ∈ t ∨ r = x := by
  rw [mem_append h, List.mem_singleton]

theorem mem_map {β : Type} {l : List β} {f : β → α} (h : t.rows = l.map f) : r ∈ t ↔ ∃ y ∈ l, f y = r := by
  rw [mem_def, h, List.mem_map]

/-- A row that was added was not there before. -/
theorem not_mem_of_rows_append {new : List α} (h : t'.rows = t.rows ++ new) (hr : r ∈ new) : r ∉ t := by
  have hnodup := t'.key_nodup
  rw [h, List.map_append, List.nodup_append] at hnodup
  exact fun hold ↦ hnodup.2.2 (key r) (List.mem_map_of_mem hold) (key r) (List.mem_map_of_mem hr) rfl

/-- The only row with a property. -/
theorem filter_eq_singleton (hr : r ∈ t) (hp : p r = true)
    (honly : ∀ x ∈ t, p x = true → x = r) : t.rows.filter p = [r] := by
  have hall : t.rows.filter p = List.replicate (t.rows.filter p).length r := by
    rw [List.eq_replicate_iff]
    exact ⟨rfl, fun x hx ↦ honly x (List.mem_filter.mp hx).1 (List.mem_filter.mp hx).2⟩
  have hnodup : (t.rows.filter p).Nodup := (List.Nodup.of_map key t.key_nodup).filter p
  have hpos : 0 < (t.rows.filter p).length := List.length_pos_of_mem (List.mem_filter.mpr ⟨hr, hp⟩)
  rw [hall, List.nodup_replicate] at hnodup
  have hone : (t.rows.filter p).length = 1 := Nat.le_antisymm hnodup hpos
  rw [hall, hone, List.replicate_one]

/-- The only row with a property is the one that is found. -/
theorem find?_eq_some (hr : r ∈ t) (hp : p r = true) (honly : ∀ x ∈ t, p x = true → x = r) : t.find? p = some r := by
  cases hfind : t.find? p with
  | none => exact absurd hp (List.find?_eq_none.mp hfind r hr)
  | some x => rw [honly x (List.mem_of_find?_eq_some hfind) (List.find?_some hfind)]

/-- A lookup that at most one row meets. -/
theorem exists_find?_iff {Q : α → Prop} (honly : ∀ x ∈ t, ∀ y ∈ t, p x = true → p y = true → x = y) :
    (∃ r, t.find? p = some r ∧ Q r) ↔ ∃ r ∈ t, p r = true ∧ Q r := by
  constructor
  · rintro ⟨r, hfind, hQ⟩
    exact ⟨r, List.mem_of_find?_eq_some hfind, List.find?_some hfind, hQ⟩
  · rintro ⟨r, hr, hp, hQ⟩
    exact ⟨r, find?_eq_some hr hp fun x hx hpx ↦ honly x hx r hr hpx hp, hQ⟩

/-- Each row that is selected is selected once. -/
theorem countP_key_filter [DecidableEq κ] (hr : r ∈ t) (hp : p r = true) :
    (t.rows.filter p).countP (fun x ↦ key x = key r) = 1 := by
  have honly : ∀ x ∈ t, (decide (key x = key r) && p x) = true → x = r := by
    intro x hx hsame
    rw [Bool.and_eq_true, decide_eq_true_eq] at hsame
    exact eq_of_key_eq hx hr hsame.1
  rw [List.countP_eq_length_filter, List.filter_filter, filter_eq_singleton hr (by simp [hp]) honly,
    List.length_singleton]

theorem eq_of_filterMap_nodup {l : List α} (hnodup : (l.filterMap index).Nodup)
    (hr : r ∈ l) (hr' : r' ∈ l) (h : index r = some i) (h' : index r' = some i) : r = r' := by
  have hsymm : Std.Symm fun a b ↦ ∀ i, index a = some i → ∀ j, index b = some j → i ≠ j :=
    ⟨fun _ _ h i hi j hj ↦ (h j hj i hi).symm⟩
  by_contra hne
  exact (List.pairwise_filterMap.mp hnodup).forall hr hr' hne i h i h' rfl

/-- Rows with the same index entry are the same row. -/
theorem eq_of_index_eq (hr : r ∈ t) (hr' : r' ∈ t) (h : index r = some i) (h' : index r' = some i) : r = r' :=
  eq_of_filterMap_nodup t.index_nodup hr hr' h h'

theorem byIndex_eq_some_iff [DecidableEq ι] : t.byIndex i = some r ↔ r ∈ t ∧ index r = some i := by
  constructor
  · intro h
    exact ⟨List.mem_of_find?_eq_some h, by simpa using List.find?_some h⟩
  · rintro ⟨hr, hi⟩
    have hsome : (t.byIndex i).isSome := by
      rw [byIndex, List.find?_isSome]
      exact ⟨r, hr, by simpa using hi⟩
    obtain ⟨r', hr'⟩ := Option.isSome_iff_exists.mp hsome
    have hmem' : r' ∈ t := List.mem_of_find?_eq_some hr'
    have hindex' : index r' = some i := by simpa using List.find?_some hr'
    rw [hr', eq_of_index_eq hmem' hr hindex' hi]

theorem byIndex_eq_none_iff [DecidableEq ι] : t.byIndex i = none ↔ ∀ r ∈ t, index r ≠ some i := by
  simp [byIndex, List.find?_eq_none, mem_def]

/-- The index entry of a row that was inserted was free. -/
theorem byIndex_of_insert? [DecidableEq κ] [DecidableEq ι] (h : t.insert? x = some t')
    (hi : index x = some i) : t.byIndex i = none := by
  rw [byIndex_eq_none_iff]
  intro r hr hri
  rcases (fits_of_insert? h).2 r hr with hnone | hne
  · simp [hi] at hnone
  · exact hne (hri.trans hi.symm)

/-- Looking up an index entry after one more row. -/
theorem byIndex_append [DecidableEq ι] (h : t'.rows = t.rows ++ [x]) :
    t'.byIndex i = (t.byIndex i).or (if index x = some i then some x else none) := by
  rw [byIndex, byIndex, h, List.find?_append]
  congr 1
  by_cases hx : index x = some i <;> simp [hx]

theorem better_eq_some {before : α → α → Bool} {best : Option α} (h : better before best x = some r) :
    r = x ∨ best = some r := by
  cases best with
  | none => exact .inl (Option.some.inj h).symm
  | some =>
    rw [better] at h
    split at h
    · exact .inl (Option.some.inj h).symm
    · exact .inr h

theorem mem_of_foldl_better {before : α → α → Bool} {l : List α} {best : Option α}
    (h : l.foldl (better before) best = some r) : r ∈ l ∨ best = some r := by
  induction l generalizing best with
  | nil => exact .inr h
  | cons a _ ih =>
    rcases ih h with hrest | hbest
    · exact .inl (List.mem_cons_of_mem a hrest)
    · rcases better_eq_some hbest with rfl | hbest
      · exact .inl List.mem_cons_self
      · exact .inr hbest

theorem mem_scan {scan : Scan α} : r ∈ (scan.order t.rows).filter p ↔ r ∈ t ∧ p r = true := by
  rw [List.mem_filter, (scan.perm _).mem_iff, mem_def]

/-- The first row in an order is a row of the table with the property. -/
theorem mem_of_firstIn {scan : Scan α} {before : α → α → Bool} (h : t.firstIn scan p before = some r) :
    r ∈ t ∧ p r = true := by
  rcases mem_of_foldl_better h with h | h
  · exact mem_scan.mp h
  · cases h

/-- Among rows with a property there is a first one. -/
theorem isSome_firstIn {scan : Scan α} {before : α → α → Bool} :
    (t.firstIn scan p before).isSome = true ↔ ∃ r ∈ t, p r = true := by
  have hfold (l : List α) (best : Option α) :
      (l.foldl (better before) best).isSome = (best.isSome || !l.isEmpty) := by
    induction l generalizing best with
    | nil => simp
    | cons a _ ih =>
      have hbetter : (better before best a).isSome = true := by
        cases best with
        | none => rfl
        | some => rw [better]; split <;> rfl
      simp [ih, hbetter]
  rw [firstIn, hfold]
  simp [mem_def, (scan.perm t.rows).mem_iff]

/-- A kind of rows that come before the others comes first. -/
theorem firstIn_kind {scan : Scan α} {before : α → α → Bool} {kind : α → Prop}
    (hkind : ∀ a b, kind a → ¬kind b → before a b = true ∧ before b a = false)
    (h : t.firstIn scan p before = some r) (hx : x ∈ t) (hp : p x = true) (hxkind : kind x) : kind r := by
  have hfold (l : List α) (best : Option α) (h : l.foldl (better before) best = some r)
      (hex : ∃ b, (b ∈ l ∨ best = some b) ∧ kind b) : kind r := by
    induction l generalizing best with
    | nil =>
      obtain ⟨_, hb, hbkind⟩ := hex
      obtain rfl := Option.some.inj (h.symm.trans (hb.resolve_left List.not_mem_nil))
      exact hbkind
    | cons a _ ih =>
      refine ih _ h ?_
      cases best with
      | none => grind [better]
      | some c =>
        have ha := hkind a c
        have hc := hkind c a
        grind [better]
  exact hfold _ none h ⟨x, .inl (mem_scan.mpr ⟨hx, hp⟩), hxkind⟩

/-- Rows that are paired in order with a list, whose entries say which row they belong to, correspond
one to one with its entries. -/
theorem existsUnique_of_forall₂ {β : Type} {R : α → β → Prop} {ys : List β}
    (h : List.Forall₂ R (t.rows.filter p) ys) (hkey : ∀ r ∈ t, ∀ r' ∈ t, ∀ y, R r y → R r' y → key r = key r') :
    (∀ r ∈ t, p r = true → ∃! y, y ∈ ys ∧ R r y) ∧ ∀ y ∈ ys, ∃! r, (r ∈ t ∧ p r = true) ∧ R r y := by
  obtain ⟨hlength, hR⟩ := List.forall₂_iff_get.mp h
  have hnodup : (t.rows.filter p).Nodup := (t.key_nodup.of_map key).filter p
  have hmem {i : ℕ} (hi : i < (t.rows.filter p).length) : (t.rows.filter p)[i] ∈ t :=
    (List.mem_filter.mp (List.getElem_mem hi)).1
  refine ⟨fun r hr hp ↦ ?_, fun y hy ↦ ?_⟩
  · obtain ⟨i, hi, rfl⟩ := List.getElem_of_mem (List.mem_filter.mpr ⟨hr, hp⟩)
    refine ⟨ys[i], ⟨List.getElem_mem _, hR i hi (hlength ▸ hi)⟩, fun y ⟨hy, hy'⟩ ↦ ?_⟩
    obtain ⟨j, hj, rfl⟩ := List.getElem_of_mem hy
    have hj' : j < (t.rows.filter p).length := hlength ▸ hj
    have hsame := eq_of_key_eq (hmem hi) (hmem hj') (hkey _ (hmem hi) _ (hmem hj') _ hy' (hR j hj' hj))
    obtain rfl := (hnodup.getElem_inj_iff).mp hsame
    rfl
  · obtain ⟨i, hi, rfl⟩ := List.getElem_of_mem hy
    have hi' : i < (t.rows.filter p).length := hlength ▸ hi
    refine ⟨_, ⟨List.mem_filter.mp (List.getElem_mem hi'), hR i hi' hi⟩, fun r ⟨hr, hy⟩ ↦ ?_⟩
    exact eq_of_key_eq hr.1 (hmem hi') (hkey _ hr.1 _ (hmem hi') _ hy (hR i hi' hi))

end Lemmas

/-! ## Joins -/

theorem eq_of_countP_le_one {rows : List α} {p : α → Bool} (h : rows.countP p ≤ 1) {a b : α}
    (ha : a ∈ rows) (hb : b ∈ rows) (hpa : p a = true) (hpb : p b = true) : a = b := by
  rw [List.countP_eq_length_filter] at h
  have hfa : a ∈ rows.filter p := List.mem_filter.mpr ⟨ha, hpa⟩
  have hfb : b ∈ rows.filter p := List.mem_filter.mpr ⟨hb, hpb⟩
  match rows.filter p, h, hfa, hfb with
  | [x], _, hfa, hfb => rw [List.mem_singleton.mp hfa, List.mem_singleton.mp hfb]

/-- In a join of distinct rows with at most one partner each, at most one result comes from a key. -/
theorem countP_flatMap_le_one {β : Type} {rows : List α} (hnodup : (rows.map key).Nodup)
    {f : α → List β} (hlength : ∀ a, (f a).length ≤ 1) {p : β → Bool} {k : κ}
    (hp : ∀ a, ∀ b ∈ f a, p b = true → key a = k) : (rows.flatMap f).countP p ≤ 1 := by
  induction rows with
  | nil => simp
  | cons a rest ih =>
    rw [List.map_cons, List.nodup_cons] at hnodup
    rw [List.flatMap_cons, List.countP_append]
    have hhead : (f a).countP p ≤ 1 := Nat.le_trans List.countP_le_length (hlength a)
    have htail := ih hnodup.2
    -- a result of the head rules out results of the tail
    have hexclusive : (f a).countP p = 0 ∨ (rest.flatMap f).countP p = 0 := by
      by_contra hboth
      push Not at hboth
      obtain ⟨b, hb, hpb⟩ := List.countP_pos_iff.mp (Nat.pos_of_ne_zero hboth.1)
      obtain ⟨b', hb', hpb'⟩ := List.countP_pos_iff.mp (Nat.pos_of_ne_zero hboth.2)
      obtain ⟨a', ha', hfa'⟩ := List.mem_flatMap.mp hb'
      apply hnodup.1
      rw [hp a b hb hpb, ← hp a' b' hfa' hpb']
      exact List.mem_map_of_mem ha'
    omega

end Table

end Webhookery.Relational
