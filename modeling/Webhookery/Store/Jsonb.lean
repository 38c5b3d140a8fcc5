import Webhookery.Go.Canonical
import Webhookery.Store.Database

/-!
# The text of a `jsonb` column

PostgreSQL keeps the values of a document that is written to a `jsonb` column, and prints them in a form of its own:
the members of an object by the length of their names and then by their bytes, of equal names only the last, with a
space after every colon and comma. Numbers are printed in full and nothing is escaped for HTML. No text of an object
with members that `json.Marshal` writes is printed as it was written.
-/

namespace Webhookery.Store

open Go Value

/-! ## Printing -/

/-- The escape of a character, which for HTML and for line separators is none. -/
def jsonbEscape (c : Char) : List Char :=
  if c = '<' ∨ c = '>' ∨ c = '&' ∨ c.toNat = 0x2028 ∨ c.toNat = 0x2029 then [c] else escapeChar c

/-- A number without exponent, with the places behind the point that it was written with. -/
def numericChars (d : Decimal) : List Char :=
  let digits := Nat.toDigits 10 d.digits
  let exp10 := if d.digits = 0 then min d.exp10 0 else d.exp10
  (if d.neg && d.digits != 0 then ['-'] else []) ++ Float64.fixedChars digits (digits.length + exp10)

/-- The order of names. -/
def nameBefore (k k' : String) : Bool :=
  k.utf8ByteSize < k'.utf8ByteSize || (k.utf8ByteSize == k'.utf8ByteSize && k < k')

/-- A member takes its place in the order, or the place of the member with its name. -/
def insertMember (k : String) (text : List Char) : List (String × List Char) → List (String × List Char)
  | [] => [(k, text)]
  | (k', text') :: rest =>
    if k = k' then (k, text) :: rest
    else if nameBefore k k' then (k, text) :: (k', text') :: rest
    else (k', text') :: insertMember k text rest

def memberChars (member : String × List Char) : List Char :=
  quote (member.1.toList.flatMap jsonbEscape) ++ ':' :: ' ' :: member.2

mutual

def jsonbChars : Json → List Char
  | .null => "null".toList
  | .bool true => "true".toList
  | .bool false => "false".toList
  | .num literal => numericChars literal
  | .str s => quote (s.toList.flatMap jsonbEscape)
  | .arr items => '[' :: [',', ' '].intercalate (jsonbItems items) ++ [']']
  | .obj members => '\x7b' :: [',', ' '].intercalate ((jsonbMembers members []).map memberChars) ++ ['\x7d']

def jsonbItems : List Json → List (List Char)
  | [] => []
  | j :: rest => jsonbChars j :: jsonbItems rest

/-- Members are taken in their order in the text, so that the last of equal names stays. -/
def jsonbMembers : List (String × Json) → List (String × List Char) → List (String × List Char)
  | [], out => out
  | (k, j) :: rest, out => jsonbMembers rest (insertMember k (jsonbChars j) out)

end

/-- The form of PostgreSQL. A text that is not JSON is not stored. -/
def Jsonb.standard : Jsonb where
  text document :=
    let cs := decodeFrom 0 document
    match Json.parseValue (2 * cs.length + 2) cs.length cs with
    | some (j, rest) => if (Json.skipSpace rest).isEmpty then utf8Encode (jsonbChars j) else []
    | none => []

/-! ## Texts of `json.Marshal` -/

theorem written_jsonbEscape (c : Char) : Written c (jsonbEscape c) := by
  unfold jsonbEscape
  split
  case isTrue hplain =>
    refine .plain ?_ ?_ ?_
    · rintro rfl
      exact absurd hplain (by decide)
    · rintro rfl
      exact absurd hplain (by decide)
    · rcases hplain with rfl | rfl | rfl | h | h
      iterate 3 decide
      all_goals omega
  case isFalse => exact written_escapeChar c

theorem isNumberChar_of_mem_numericChars (h : c ∈ numericChars d) : isNumberChar c = true := by
  rcases List.mem_append.mp h with h | h
  · split at h
    · rw [List.mem_singleton.mp h]
      rfl
    · cases h
  · exact Float64.isNumberChar_of_mem_fixedChars (fun _ ↦ isNumberChar_of_mem_toDigits) c h

/-- No value begins with a space. -/
theorem marshalChars_append_ne (v : Value) (hc : c ≠ ' ') : marshalChars v ++ c :: tail ≠ ' ' :: text := by
  intro h
  cases v with
  | null | nilMap | arr | obj | str | raw => cases h
  | bool b => cases b <;> cases h
  | num f =>
    rw [marshalChars] at h
    cases hf : f.jsonChars with
    | nil =>
      rw [hf] at h
      exact hc (List.cons.inj h).1
    | cons c' cs =>
      rw [hf] at h
      have hnumber := Float64.isNumberChar_of_mem_jsonChars c' (hf ▸ List.mem_cons_self)
      rw [(List.cons.inj h).1] at hnumber
      exact absurd hnumber (by decide)

/-- In a text of `json.Marshal` a value follows its colon. -/
theorem marshalMembers_cons (k : String) (v : Value) (rest : Members) :
    ∃ c tail, c ≠ ' ' ∧ marshalMembers ((k, v) :: rest) ++ ['\x7d'] =
      quote (k.toList.flatMap escapeChar) ++ ':' :: (marshalChars v ++ c :: tail) := by
  cases rest with
  | nil => exact ⟨'\x7d', [], by decide, by simp [marshalMembers]⟩
  | cons m rest => exact ⟨',', marshalMembers (m :: rest) ++ ['\x7d'], by decide, by simp [marshalMembers]⟩

theorem jsonbChars_ne_marshalChars (j : Json) (k : String) (v : Value) (rest : Members) :
    jsonbChars j ≠ marshalChars (.obj ((k, v) :: rest)) := by
  obtain ⟨c, tail, hc, hmembers⟩ := marshalMembers_cons k v rest
  rw [marshalChars, List.cons_append, hmembers]
  intro h
  cases j with
  | null | arr | str => cases h
  | bool b => cases b <;> cases h
  | num literal =>
    rw [jsonbChars] at h
    exact absurd (isNumberChar_of_mem_numericChars (h ▸ List.mem_cons_self)) (by decide)
  | obj members =>
    rw [jsonbChars] at h
    cases hsorted : jsonbMembers members [] with
    | nil =>
      rw [hsorted] at h
      cases h
    | cons m more =>
      -- the first name is read back from both texts, and a space follows its colon in one only
      obtain ⟨text, htext⟩ : ∃ text, [',', ' '].intercalate ((m :: more).map memberChars) =
          quote (m.1.toList.flatMap jsonbEscape) ++ ':' :: ' ' :: text := by
        cases more with
        | nil => exact ⟨m.2, by simp [memberChars]⟩
        | cons m' more =>
          exact ⟨m.2 ++ ',' :: ' ' :: [',', ' '].intercalate ((m' :: more).map memberChars), by
            simp [memberChars, List.intercalate_cons_cons]⟩
      rw [hsorted, htext, List.cons_append, List.append_assoc] at h
      have hrest := (quote_append_inj written_jsonbEscape written_escapeChar (List.cons.inj h).2).2
      exact marshalChars_append_ne v hc (List.cons.inj hrest).2.symm

/-- An object with members is not read back as `json.Marshal` wrote it. -/
theorem text_ne_marshal {m : String × Value} {rest : Members} :
    Jsonb.standard.text (marshal (.obj (m :: rest))) ≠ marshal (.obj (m :: rest)) := by
  have hne : [] ≠ marshal (.obj (m :: rest)) := by
    rw [marshal, marshalChars]
    exact utf8Encode_injective.ne (List.cons_ne_nil _ _).symm
  dsimp only [Jsonb.standard]
  split
  case h_1 j _ _ =>
    split
    · exact utf8Encode_injective.ne (jsonbChars_ne_marshalChars j m.1 m.2 rest)
    · exact hne
  case h_2 => exact hne

end Webhookery.Store
