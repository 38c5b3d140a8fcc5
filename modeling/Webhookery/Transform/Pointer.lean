import Webhookery.Go.Strings

/-!
# JSON Pointers

The tokens of a pointer, as transformations split it, and the escapes by which every key can be written as one. A
pointer that is a single slash has the empty key as its token, but it is read as the whole document.
-/

namespace Webhookery.Transform

open Go

def unescapeToken (part : String) : String := replaceAll (replaceAll part "~1" "/") "~0" "~"

def pointerTokens (path : String) : List String :=
  if path = "" ∨ path = "/" then [] else (split (trimPrefix path "/") '/').map unescapeToken

/-- A key within a pointer. -/
def escapeToken (token : String) : String := replaceAll (replaceAll token "~" "~0") "/" "~1"

/-- The pointer with some keys. -/
def pointerOf (tokens : List String) : String :=
  String.ofList (tokens.flatMap fun token ↦ '/' :: (escapeToken token).toList)

theorem replaceFrom_char (c : Char) (new cs : List Char) :
    replaceFrom [c] new 0 cs = cs.flatMap fun x ↦ if c = x then new else [x] := by
  induction cs with
  | nil => rfl
  | cons x _ ih =>
    rw [List.flatMap_cons, ← ih, replaceFrom]
    by_cases hc : c = x <;> simp [hc]

theorem toList_escapeToken (token : String) : (escapeToken token).toList =
    token.toList.flatMap fun x ↦ if x = '~' then ['~', '0'] else if x = '/' then ['~', '1'] else [x] := by
  simp only [escapeToken, replaceAll, String.toList_ofList]
  rw [show "~".toList = ['~'] from rfl, show "/".toList = ['/'] from rfl, replaceFrom_char, replaceFrom_char,
    List.flatMap_assoc]
  congr 1
  funext x
  by_cases htilde : '~' = x
  · simp [← htilde]
  · by_cases hslash : '/' = x
    · simp [← hslash]
    · simp [htilde, hslash, Ne.symm htilde, Ne.symm hslash]

theorem unescapeToken_escapeToken (token : String) : unescapeToken (escapeToken token) = token := by
  have hslash (cs : List Char) : replaceFrom ['~', '1'] ['/'] 0 (cs.flatMap fun x ↦
      if x = '~' then ['~', '0'] else if x = '/' then ['~', '1'] else [x]) =
      cs.flatMap fun x ↦ if x = '~' then ['~', '0'] else [x] := by
    induction cs with
    | nil => rfl
    | cons x _ ih =>
      rw [List.flatMap_cons, List.flatMap_cons, ← ih]
      by_cases htilde : x = '~'
      · simp [replaceFrom, htilde]
      · by_cases hslash : x = '/' <;> simp [replaceFrom, htilde, hslash, Ne.symm htilde]
  have htilde (cs : List Char) : replaceFrom ['~', '0'] ['~'] 0 (cs.flatMap fun x ↦
      if x = '~' then ['~', '0'] else [x]) = cs := by
    induction cs with
    | nil => rfl
    | cons x _ ih =>
      rw [List.flatMap_cons]
      by_cases htilde : x = '~'
      · simp [replaceFrom, htilde, ih]
      · simp [replaceFrom, htilde, ih, Ne.symm htilde]
  simp only [unescapeToken, replaceAll, String.toList_ofList, toList_escapeToken]
  rw [show "~1".toList = ['~', '1'] from rfl, show "/".toList = ['/'] from rfl, hslash,
    show "~0".toList = ['~', '0'] from rfl, show "~".toList = ['~'] from rfl, htilde, String.ofList_toList]

/-- The keys are what the pointer is split into. -/
theorem map_unescapeToken_pointerOf {tokens : List String} (hne : tokens ≠ []) :
    (split (trimPrefix (pointerOf tokens) "/") '/').map unescapeToken = tokens := by
  have hjoin : (pointerOf tokens).toList =
      '/' :: ['/'].intercalate (tokens.map fun token ↦ (escapeToken token).toList) := by
    rw [pointerOf, String.toList_ofList]
    induction tokens with
    | nil => exact absurd rfl hne
    | cons token rest ih =>
      cases rest with
      | nil => simp
      | cons => simpa using ih (List.cons_ne_nil _ _)
  have htrim : (trimPrefix (pointerOf tokens) "/").toList =
      ['/'].intercalate (tokens.map fun token ↦ (escapeToken token).toList) := by
    simp [trimPrefix, cutPrefix, hasPrefix, hjoin, show "/".length = 1 from rfl]
  have hfree : ∀ part ∈ tokens.map fun token ↦ (escapeToken token).toList, '/' ∉ part := by
    intro part hpart hmem
    obtain ⟨token, -, rfl⟩ := List.mem_map.mp hpart
    rw [toList_escapeToken, List.mem_flatMap] at hmem
    obtain ⟨x, -, hx⟩ := hmem
    by_cases htilde : x = '~'
    · simp [htilde] at hx
    · by_cases hslash : x = '/' <;> simp [htilde, hslash, eq_comm] at hx
  rw [split, htrim, List.splitOn_intercalate '/' hfree (by simpa using hne)]
  simp [Function.comp_def, unescapeToken_escapeToken]

/-- Keys that are escaped and joined are the tokens of the pointer, unless there is one and it is empty. -/
theorem pointerTokens_pointerOf_iff {tokens : List String} (hne : tokens ≠ []) :
    pointerTokens (pointerOf tokens) = tokens ↔ tokens ≠ [""] := by
  have htokens := map_unescapeToken_pointerOf hne
  unfold pointerTokens
  split
  case isTrue hpath =>
    refine iff_of_false hne.symm fun h ↦ h ?_
    rcases hpath with hpath | hpath <;> rw [hpath] at htokens <;> exact htokens.symm.trans (by decide)
  case isFalse hpath =>
    refine iff_of_true htokens ?_
    rintro rfl
    exact hpath (.inr (by decide))

theorem escaped_keys_addressed : pointerTokens (pointerOf ["a/b~1", ""]) = ["a/b~1", ""] :=
  (pointerTokens_pointerOf_iff (by decide)).mpr (by decide)

/-- The path of the empty key stands for the whole document. -/
theorem empty_key_lost : pointerOf [""] = "/" ∧ pointerTokens "/" = [] := by
  decide

end Webhookery.Transform
