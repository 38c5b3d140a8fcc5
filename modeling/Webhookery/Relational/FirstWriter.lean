import Mathlib.Data.List.Nodup
import Mathlib.Data.List.Induction

/-!
# The first writer of a key

In a history of entries with keys, the first entry of a key owns it. Insertions that do nothing on
a conflict write the owners of a history, in their order.
-/

namespace Webhookery.Relational

variable {ε κ : Type} [DecidableEq κ] (key : ε → κ)

/-- The first entry with a key. -/
def owner (history : List ε) (k : κ) : Option ε := history.find? fun e ↦ key e = k

/-- The entries that own their key. -/
def owners (history : List ε) : List ε :=
  history.foldl (fun acc e ↦ if acc.any fun a ↦ key a = key e then acc else acc ++ [e]) []

variable {key} {history : List ε} {e : ε} {k : κ}

theorem owner_append_singleton :
    owner key (history ++ [e]) k = (owner key history k).or (if key e = k then some e else none) := by
  unfold owner
  rw [List.find?_append]
  congr 1
  by_cases he : key e = k <;> simp [he]

theorem mem_of_owner (h : owner key history k = some e) : e ∈ history :=
  List.mem_of_find?_eq_some h

theorem key_of_owner (h : owner key history k = some e) : key e = k := by
  simpa using List.find?_some h

variable (key) in
theorem exists_owner (h : e ∈ history) : ∃ f, owner key history (key e) = some f := by
  rw [← Option.isSome_iff_exists, owner, List.find?_isSome]
  exact ⟨e, h, by simp⟩

theorem owner_map {δ : Type} (f : δ → ε) (history : List δ) (k : κ) :
    owner key (history.map f) k = (owner (key ∘ f) history k).map f := by
  unfold owner
  rw [List.find?_map]
  rfl

/-- An owner stays the owner. -/
theorem owner_append_of_some (h : owner key history k = some e) (f : ε) : owner key (history ++ [f]) k = some e := by
  rw [owner_append_singleton, h, Option.some_or]

theorem owners_append_singleton_aux (history : List ε) (e : ε) :
    owners key (history ++ [e]) =
      if (owners key history).any fun a ↦ key a = key e then owners key history
      else owners key history ++ [e] := by
  rw [owners, List.foldl_append]
  rfl

theorem any_owners (history : List ε) (k : κ) :
    (owners key history).any (fun a ↦ key a = k) = (owner key history k).isSome := by
  induction history using List.reverseRecOn with
  | nil => rfl
  | append_singleton _ e ih =>
    rw [owners_append_singleton_aux, owner_append_singleton, Option.isSome_or]
    by_cases hk : key e = k
    · subst hk
      split
      case isTrue hany => simp [← ih, hany]
      case isFalse => simp
    · split
      case isTrue => simp [ih]
      case isFalse => simp [List.any_append, ih, hk]

theorem owners_append_of_owner {f : ε} (h : owner key history (key e) = some f) :
    owners key (history ++ [e]) = owners key history := by
  rw [owners_append_singleton_aux, any_owners, h]
  rfl

theorem owners_append_of_none (h : owner key history (key e) = none) :
    owners key (history ++ [e]) = owners key history ++ [e] := by
  rw [owners_append_singleton_aux, any_owners, h]
  rfl

theorem owner_owners (history : List ε) (k : κ) : owner key (owners key history) k = owner key history k := by
  induction history using List.reverseRecOn with
  | nil => rfl
  | append_singleton rest e ih =>
    cases he : owner key rest (key e) with
    | some =>
      rw [owners_append_of_owner he, ih, owner_append_singleton]
      by_cases hk : key e = k
      · rw [← hk, he, Option.some_or]
      · rw [if_neg hk, Option.or_none]
    | none => rw [owners_append_of_none he, owner_append_singleton, owner_append_singleton, ih]

theorem mem_owners_iff : e ∈ owners key history ↔ owner key history (key e) = some e := by
  induction history using List.reverseRecOn with
  | nil => simp [owners, owner]
  | append_singleton rest f ih =>
    cases hf : owner key rest (key f) with
    | some =>
      rw [owners_append_of_owner hf, ih, owner_append_singleton]
      by_cases hk : key f = key e
      · rw [← hk, hf]
        simp
      · simp [hk]
    | none =>
      rw [owners_append_of_none hf, List.mem_append, List.mem_singleton, ih]
      by_cases hk : key f = key e
      · have hnone : owner key rest (key e) = none := hk ▸ hf
        rw [owner_append_singleton, hnone, if_pos hk]
        simp [eq_comm]
      · have hne : e ≠ f := fun h ↦ hk (congrArg key h.symm)
        rw [owner_append_singleton, if_neg hk]
        simp [hne]

end Webhookery.Relational
