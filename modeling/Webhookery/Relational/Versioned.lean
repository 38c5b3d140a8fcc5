import Webhookery.Relational.Table

/-!
# Versioned rows

A row of configuration is published together with a version row that describes it: the row is
inserted or replaced, the version row is inserted, and the row is replaced once more, now naming its
version. Every row of the table is then described by some version row, and the version rows of a row are
numbered from one up to its version.
-/

namespace Webhookery.Relational

variable {α ν κ ι κ' ι' : Type} {key : α → κ} {index : α → Option ι} {key' : ν → κ'}
  {index' : ν → Option ι'}

/-- A table and its versions after row `x` was published with version row `v`. -/
structure Published (t t' : Table α key index) (vs vs' : Table ν key' index') (x : α) (v : ν) : Prop where
  rows : ∀ r ∈ t', r = x ∨ r ∈ t ∧ key r ≠ key x
  keys : ∀ k, (k = key x ∨ ∃ r ∈ t, key r = k) → ∃ r ∈ t', key r = k
  versions : vs'.rows = vs.rows ++ [v]

variable {t t' t₁ : Table α key index} {vs vs' : Table ν key' index'} {x x₀ : α} {v : ν}

section Publish

variable [DecidableEq κ] [DecidableEq κ'] [DecidableEq ι']

theorem published_of_insert? [DecidableEq ι] (hindex : ∀ r, key r = key x → index x = index r)
    (ht : t.insert? x₀ = some t₁) (hkey : key x = key x₀) (hvs : vs.insert? v = some vs') :
    Published t (t₁.replace x hindex) vs vs' x v where
  rows := by
    intro r hr
    rcases Table.mem_replace hr with rfl | ⟨hmem, hne⟩
    · exact .inl rfl
    · rcases (Table.mem_insert? ht).mp hmem with hold | rfl
      · exact .inr ⟨hold, hne⟩
      · exact absurd hkey.symm hne
  keys k hk := by
    refine Table.exists_key_replace hindex ?_
    rcases hk with rfl | ⟨r, hr, rfl⟩
    · exact ⟨x₀, (Table.mem_insert? ht).mpr (.inr rfl), hkey.symm⟩
    · exact ⟨r, (Table.mem_insert? ht).mpr (.inl hr), rfl⟩
  versions := Table.rows_insert? hvs

theorem published_of_replace (hindex : ∀ r, key r = key x → index x = index r)
    (hindex₀ : ∀ r, key r = key x₀ → index x₀ = index r) (hkey : key x = key x₀)
    (hmem : ∃ r ∈ t, key r = key x) (hvs : vs.insert? v = some vs') :
    Published t ((t.replace x₀ hindex₀).replace x hindex) vs vs' x v where
  rows := by
    intro r hr
    rcases Table.mem_replace hr with rfl | ⟨hmem, hne⟩
    · exact .inl rfl
    · rcases Table.mem_replace hmem with rfl | ⟨hold, -⟩
      · exact absurd hkey.symm hne
      · exact .inr ⟨hold, hne⟩
  keys k hk := by
    refine Table.exists_key_replace hindex (Table.exists_key_replace hindex₀ ?_)
    rcases hk with rfl | hk
    · exact hmem
    · exact hk
  versions := Table.rows_insert? hvs

end Publish

/-- Every row is described by a version row. -/
def Described (describes : ν → α → Prop) (t : Table α key index) (vs : Table ν key' index') : Prop :=
  ∀ r ∈ t, ∃ v ∈ vs, describes v r

theorem Described.publish {describes : ν → α → Prop} (h : Described describes t vs)
    (hp : Published t t' vs vs' x v) (hx : describes v x) : Described describes t' vs' := by
  intro r hr
  rcases hp.rows r hr with rfl | ⟨hold, -⟩
  · exact ⟨v, by rw [Table.mem_def, hp.versions]; simp, hx⟩
  · obtain ⟨w, hw, hdescribes⟩ := h r hold
    refine ⟨w, ?_, hdescribes⟩
    exact (Table.mem_append hp.versions).mpr (.inl hw)

variable [DecidableEq κ] {ref : ν → κ} {number : ν → Nat} {version : α → Nat}

/-- The version rows of each row are numbered from one up to its version, and there are no others. -/
structure Consecutive (ref : ν → κ) (number : ν → Nat) (version : α → Nat) (t : Table α key index)
    (vs : Table ν key' index') : Prop where
  numbers : ∀ r ∈ t, (vs.rows.filter fun v ↦ ref v = key r).map number = List.range' 1 (version r)
  owned : ∀ v ∈ vs, ∃ r ∈ t, key r = ref v

theorem Consecutive.publish (h : Consecutive ref number version t vs) (hp : Published t t' vs vs' x v)
    (href : ref v = key x) (hnumber : number v = version x)
    (hnext : (version x = 1 ∧ ∀ r ∈ t, key r ≠ key x) ∨ ∃ r ∈ t, key r = key x ∧ version x = version r + 1) :
    Consecutive ref number version t' vs' := by
  constructor
  case numbers =>
    intro r hr
    rw [hp.versions, List.filter_append, List.map_append]
    rcases hp.rows r hr with rfl | ⟨hold, hne⟩
    · simp only [href, decide_true, List.filter_cons_of_pos, List.filter_nil, List.map_cons, List.map_nil, hnumber]
      rcases hnext with ⟨hone, hfresh⟩ | ⟨r₀, hr₀, hkey, hversion⟩
      · have hnone : vs.rows.filter (fun v ↦ ref v = key r) = [] := by
          refine List.filter_eq_nil_iff.mpr fun w hw hsame ↦ ?_
          obtain ⟨r₀, hr₀, hkey⟩ := h.owned w hw
          exact hfresh r₀ hr₀ (hkey.trans (of_decide_eq_true hsame))
        rw [hnone, hone]
        rfl
      · rw [← hkey, h.numbers r₀ hr₀, hversion, List.range'_concat, Nat.one_mul, Nat.add_comm 1]
    · rw [List.filter_cons_of_neg (by simpa [href] using hne.symm), List.filter_nil, List.map_nil,
        List.append_nil]
      exact h.numbers r hold
  case owned =>
    intro w hw
    rcases (Table.mem_of_rows_append hp.versions).mp hw with hold | rfl
    · exact hp.keys _ (.inr (h.owned w hold))
    · exact hp.keys _ (.inl href)

end Webhookery.Relational
