import Mathlib.Data.List.Count
import Mathlib.Data.List.MinMax
import Mathlib.Data.List.Sort

/-!
# Ranked selections

A queue orders its rows by class, then by the rank of a row among the rows of its own tenant and class,
which are ranked by due time and identifier, and then by due time, tenant and identifier. The first rows
in this order are those of the lower classes, and within a class the tenants take turns: two of them
differ by at most one row, unless the one with fewer rows has none left.
-/

namespace Webhookery.Relational

/-- What a queue reads of its rows. -/
structure Queue (α κ τ δ ι : Type) where
  cls : α → κ
  tenant : α → τ
  due : α → δ
  id : α → ι

namespace Queue

variable {α κ τ δ ι : Type} [Ord δ] [Ord ι] [DecidableEq κ] [DecidableEq τ]

/-! ## Ranks -/

section Ranks

variable (Q : Queue α κ τ δ ι)

/-- By due time, then by identifier. -/
def dueOrder : α → α → Ordering := compareLex (compareOn Q.due) (compareOn Q.id)

/-- The row belongs to a tenant and a class. -/
def inGroup (k : κ) (t : τ) (a : α) : Bool := Q.cls a == k && Q.tenant a == t

/-- The position of a row among the rows of its tenant and class, counted from one. -/
def rank (rows : List α) (a : α) : Nat :=
  (rows.filter fun c ↦ Q.cls c == Q.cls a && Q.tenant c == Q.tenant a && (Q.dueOrder c a).isLE).length

end Ranks

variable {Q : Queue α κ τ δ ι} {rows : List α} {a b : α}

section Counts

variable {p q : α → Bool}

/-- A condition that fails for a row of another one holds for fewer rows. -/
theorem countP_lt_countP (h : ∀ x ∈ rows, p x = true → q x = true) (ha : a ∈ rows) (hq : q a = true)
    (hp : ¬p a = true) : rows.countP p < rows.countP q := by
  have hcount : rows.countP p = (rows.filter q).countP p := by
    rw [List.countP_filter]
    apply List.countP_congr
    intro x hx
    simpa using fun hpx ↦ h x hx hpx
  rw [hcount, List.countP_eq_length_filter (p := q), List.countP_lt_length_iff]
  exact ⟨a, List.mem_filter.mpr ⟨ha, hq⟩, by simpa using hp⟩

end Counts

/-! ## The order of the queue -/

section Order

variable [Ord κ] [Ord τ] (Q : Queue α κ τ δ ι)

/-- By class, rank, due time, tenant and identifier. -/
def order (rows : List α) : α → α → Ordering :=
  compareLex (compareOn Q.cls) (compareLex (compareOn (Q.rank rows))
    (compareLex (compareOn Q.due) (compareLex (compareOn Q.tenant) (compareOn Q.id))))

/-- The first rows in the order. -/
def first (rows : List α) (n : Nat) : List α :=
  (rows.insertionSort fun a b ↦ (Q.order rows a b).isLE = true).take n

end Order

section First

variable [Ord κ] [Ord τ] {n : Nat}

theorem first_subset : Q.first rows n ⊆ rows := by
  intro a ha
  exact (List.mem_insertionSort _).mp (List.mem_of_mem_take ha)

theorem nodup_first (h : rows.Nodup) : (Q.first rows n).Nodup :=
  ((List.perm_insertionSort _ rows).nodup_iff.mpr h).sublist (List.take_sublist _ _)

end First

/-! ## Ranks and the order -/

variable [Std.TransOrd δ] [Std.TransOrd ι]

instance : Std.TransCmp Q.dueOrder := inferInstanceAs (Std.TransCmp (compareLex _ _))

/-- The ranks of a tenant and a class follow due time and identifier. -/
theorem rank_lt_rank (hb : b ∈ rows) (hcls : Q.cls a = Q.cls b)
    (htenant : Q.tenant a = Q.tenant b) (hlt : Q.dueOrder a b = .lt) :
    Q.rank rows a < Q.rank rows b := by
  simp only [rank, ← List.countP_eq_length_filter]
  refine countP_lt_countP (fun c _ hc ↦ ?_) hb ?_ ?_
  · rw [Bool.and_eq_true, hcls, htenant] at hc
    rw [Bool.and_eq_true]
    exact ⟨hc.1, Std.TransCmp.isLE_trans hc.2 (by rw [hlt]; rfl)⟩
  · simp [Std.ReflCmp.compare_self]
  · rw [Bool.and_eq_true]
    exact fun h ↦ Std.OrientedCmp.not_isLE_of_lt hlt h.2

theorem rank_pos (ha : a ∈ rows) : 0 < Q.rank rows a := by
  refine List.length_pos_of_mem (List.mem_filter.mpr ⟨ha, ?_⟩)
  simp [Std.ReflCmp.compare_self]

section Distinct

variable [Std.LawfulEqOrd ι] (hid : ∀ x ∈ rows, ∀ y ∈ rows, Q.id x = Q.id y → x = y)
include hid

theorem rank_injective (ha : a ∈ rows)
    (hb : b ∈ rows) (hcls : Q.cls a = Q.cls b) (htenant : Q.tenant a = Q.tenant b)
    (hrank : Q.rank rows a = Q.rank rows b) : a = b := by
  cases horder : Q.dueOrder a b with
  | lt => exact absurd hrank (rank_lt_rank hb hcls htenant horder).ne
  | eq =>
    rw [dueOrder, compareLex, Ordering.then_eq_eq] at horder
    exact hid a ha b hb (Std.LawfulEqOrd.eq_of_compare horder.2)
  | gt =>
    have hswap : Q.dueOrder b a = (Q.dueOrder a b).swap := Std.OrientedCmp.eq_swap
    have hlt : Q.dueOrder b a = .lt := by
      rw [hswap, horder]
      rfl
    exact absurd hrank (rank_lt_rank ha hcls.symm htenant.symm hlt).ne'

variable [Ord κ] [Ord τ] {n : Nat}

/-- The first row of a tenant and a class that was left has the rank after those that were taken. -/
theorem exists_left_rank_le {k : κ} {t : τ}
    (hrows : rows.Nodup) (hb : b ∈ rows) (hgroup : Q.inGroup k t b = true) (hleft : b ∉ Q.first rows n) :
    ∃ c ∈ rows, Q.inGroup k t c = true ∧ c ∉ Q.first rows n ∧
      Q.rank rows c ≤ (Q.first rows n).countP (Q.inGroup k t) + 1 := by
  classical
  let left := rows.filter fun c ↦ Q.inGroup k t c && decide (c ∉ Q.first rows n)
  have hmem (c : α) : c ∈ left ↔ c ∈ rows ∧ Q.inGroup k t c = true ∧ c ∉ Q.first rows n := by
    simp [left, List.mem_filter]
  have hne : left ≠ [] := List.ne_nil_of_mem ((hmem b).mpr ⟨hb, hgroup, hleft⟩)
  obtain ⟨c, hc⟩ := Option.ne_none_iff_exists'.mp
    (mt (List.argmin_eq_none (f := Q.rank rows)).mp hne)
  obtain ⟨hcrows, hcgroup, hcleft⟩ := (hmem c).mp (List.argmin_mem hc)
  refine ⟨c, hcrows, hcgroup, hcleft, ?_⟩
  rw [inGroup, Bool.and_eq_true, beq_iff_eq, beq_iff_eq] at hcgroup
  -- every row before it in its group was taken
  have hbefore : ∀ x ∈ rows.filter (fun x ↦
        Q.cls x == Q.cls c && Q.tenant x == Q.tenant c && (Q.dueOrder x c).isLE),
      x ∈ c :: (Q.first rows n).filter (Q.inGroup k t) := by
    intro x hx
    obtain ⟨hxrows, hx⟩ := List.mem_filter.mp hx
    simp only [Bool.and_eq_true, beq_iff_eq] at hx
    obtain ⟨⟨hcls, htenant⟩, hle⟩ := hx
    have hxgroup : Q.inGroup k t x = true := by
      simp [inGroup, hcls, htenant, hcgroup]
    by_cases hsame : x = c
    · exact hsame ▸ List.mem_cons_self
    · refine List.mem_cons_of_mem _ (List.mem_filter.mpr ⟨?_, hxgroup⟩)
      by_contra hxleft
      have hmin := List.le_of_mem_argmin ((hmem x).mpr ⟨hxrows, hxgroup, hxleft⟩) hc
      cases horder : Q.dueOrder x c with
      | lt => exact absurd hmin (not_le.mpr (rank_lt_rank hcrows hcls htenant horder))
      | eq =>
        rw [dueOrder, compareLex, Ordering.then_eq_eq] at horder
        exact hsame (hid x hxrows c hcrows (Std.LawfulEqOrd.eq_of_compare horder.2))
      | gt =>
        rw [horder] at hle
        cases hle
  have hlength := (List.subperm_of_subset (hrows.filter _) hbefore).length_le
  rw [List.length_cons, ← List.countP_eq_length_filter (p := Q.inGroup k t)] at hlength
  exact hlength

variable [Std.TransOrd κ] [Std.TransOrd τ]

instance (rows : List α) : Std.TransCmp (Q.order rows) := inferInstanceAs (Std.TransCmp (compareLex _ _))

/-- Rows that were taken come before the others. -/
theorem order_eq_lt (ha : a ∈ Q.first rows n)
    (hb : b ∈ rows) (hleft : b ∉ Q.first rows n) : Q.order rows a b = .lt := by
  have htotal : Std.Total fun a b ↦ (Q.order rows a b).isLE = true := by
    refine ⟨fun a b ↦ ?_⟩
    have hswap : Q.order rows b a = (Q.order rows a b).swap := Std.OrientedCmp.eq_swap
    rw [hswap]
    cases Q.order rows a b <;> simp
  have htrans : IsTrans α fun a b ↦ (Q.order rows a b).isLE = true :=
    ⟨fun _ _ _ ↦ Std.TransCmp.isLE_trans⟩
  have hsorted := List.pairwise_insertionSort (fun a b ↦ (Q.order rows a b).isLE = true) rows
  rw [← List.take_append_drop n (rows.insertionSort _), List.pairwise_append] at hsorted
  have hdrop : b ∈ (rows.insertionSort fun a b ↦ (Q.order rows a b).isLE = true).drop n := by
    have hall := (List.mem_insertionSort fun a b ↦ (Q.order rows a b).isLE = true).mpr hb
    rw [← List.take_append_drop n (rows.insertionSort _), List.mem_append] at hall
    exact hall.resolve_left hleft
  have hle : (Q.order rows a b).isLE = true := hsorted.2.2 a ha b hdrop
  cases horder : Q.order rows a b with
  | lt => rfl
  | eq =>
    -- equal rows have the same identifier
    simp only [order, compareLex, Ordering.then_eq_eq] at horder
    have hsame := hid a (first_subset ha) b hb (Std.LawfulEqOrd.eq_of_compare horder.2.2.2.2)
    exact absurd (hsame ▸ ha) hleft
  | gt =>
    rw [horder] at hle
    cases hle

/-- No row of a later class is taken before one of an earlier class. -/
theorem cls_isLE (ha : a ∈ Q.first rows n)
    (hb : b ∈ rows) (hleft : b ∉ Q.first rows n) : (compare (Q.cls a) (Q.cls b)).isLE = true := by
  have hlt := order_eq_lt hid ha hb hleft
  rw [order, compareLex, Ordering.then_eq_lt, compareOn] at hlt
  rcases hlt with hlt | ⟨heq, -⟩
  · rw [hlt]
    rfl
  · rw [heq]
    rfl

theorem rank_le_of_left (ha : a ∈ Q.first rows n) (hb : b ∈ rows) (hleft : b ∉ Q.first rows n)
    (hcls : Q.cls a = Q.cls b) :
    Q.rank rows a ≤ Q.rank rows b := by
  have hlt := order_eq_lt hid ha hb hleft
  simp only [order, compareLex, compareOn, hcls, Ordering.then_eq_lt, Std.ReflOrd.compare_self,
    reduceCtorEq, false_or, true_and, Nat.compare_eq_lt, Nat.compare_eq_eq] at hlt
  omega

/-- Two tenants differ by at most one row within a class, unless all rows of the other one were taken. -/
theorem countP_first_le (hrows : rows.Nodup) (k : κ) (t u : τ) :
    (Q.first rows n).countP (Q.inGroup k t) ≤ (Q.first rows n).countP (Q.inGroup k u) + 1 ∨
      ∀ b ∈ rows, Q.inGroup k u b = true → b ∈ Q.first rows n := by
  by_contra hcontra
  push Not at hcontra
  obtain ⟨_, _, hb, hgroup, hleft⟩ := hcontra
  obtain ⟨c, hc, hcgroup, hcleft, _⟩ := exists_left_rank_le hid hrows hb hgroup hleft
  let taken := (Q.first rows n).filter (Q.inGroup k t)
  -- the ranks of the rows taken for the first tenant are distinct and at most that of the row left
  have hsubset : taken.map (Q.rank rows) ⊆ List.range' 1 (Q.rank rows c) := by
    intro r hr
    obtain ⟨_, ha, rfl⟩ := List.mem_map.mp hr
    obtain ⟨hfirst, hagroup⟩ := List.mem_filter.mp ha
    rw [inGroup, Bool.and_eq_true, beq_iff_eq] at hagroup hcgroup
    have hle := rank_le_of_left hid hfirst hc hcleft (hagroup.1.trans hcgroup.1.symm)
    have hpos := rank_pos (Q := Q) (first_subset hfirst)
    rw [List.mem_range'_1]
    omega
  have hnodup : (taken.map (Q.rank rows)).Nodup := by
    refine (nodup_first hrows).filter _ |>.map_on ?_
    intro x hx y hy heq
    obtain ⟨hxfirst, hxgroup⟩ := List.mem_filter.mp hx
    obtain ⟨hyfirst, hygroup⟩ := List.mem_filter.mp hy
    rw [inGroup, Bool.and_eq_true, beq_iff_eq, beq_iff_eq] at hxgroup hygroup
    exact rank_injective hid (first_subset hxfirst) (first_subset hyfirst)
      (hxgroup.1.trans hygroup.1.symm) (hxgroup.2.trans hygroup.2.symm) heq
  have hlength := (List.subperm_of_subset hnodup hsubset).length_le
  rw [List.length_map, List.length_range', ← List.countP_eq_length_filter] at hlength
  omega

end Distinct

/-! ## Fair selections -/

section Fair

variable [Ord κ] [Ord τ]

/-- Some of the eligible rows were taken: as many as there may be, first those of lower classes, and
within a class in turn between the tenants. -/
structure Fair (Q : Queue α κ τ δ ι) (eligible taken : List α) (n : Nat) : Prop where
  count : taken.length = min n eligible.length
  nodup : taken.Nodup
  subset : taken ⊆ eligible
  first : ∀ a ∈ taken, ∀ b ∈ eligible, b ∉ taken → Q.order eligible a b = .lt
  classes : ∀ a ∈ taken, ∀ b ∈ eligible, b ∉ taken → (compare (Q.cls a) (Q.cls b)).isLE = true
  tenants : ∀ k t u, taken.countP (Q.inGroup k t) ≤ taken.countP (Q.inGroup k u) + 1 ∨
    ∀ b ∈ eligible, Q.inGroup k u b = true → b ∈ taken

variable [Std.TransOrd κ] [Std.TransOrd τ] [Std.LawfulEqOrd ι]

theorem fair_first (hid : (rows.map Q.id).Nodup) (n : Nat) : Q.Fair rows (Q.first rows n) n where
  count := by rw [first, List.length_take, List.length_insertionSort]
  nodup := nodup_first (.of_map Q.id hid)
  subset := first_subset
  first _ ha _ hb hleft := order_eq_lt (fun _ hx _ hy ↦ List.inj_on_of_nodup_map hid hx hy) ha hb hleft
  classes _ ha _ hb hleft := cls_isLE (fun _ hx _ hy ↦ List.inj_on_of_nodup_map hid hx hy) ha hb hleft
  tenants := countP_first_le (fun _ hx _ hy ↦ List.inj_on_of_nodup_map hid hx hy) (.of_map Q.id hid)

end Fair

end Queue

end Webhookery.Relational
