import Webhookery.Go.Escape

/-!
# Encodings that can be read back

A string literal that `json.Marshal` writes is read back by the decoder with nothing of what follows it, and so are
objects of values that can be read back: the texts of two objects of strings agree only for the same keys and
strings, in the same order. UTF-8 and hexadecimal lose nothing either, so all of this holds for the bytes that are
hashed.
-/

namespace Webhookery.Go

/-! ## Bytes -/

/-- A character is read back from its bytes, whatever follows them. -/
theorem decodeRune_utf8EncodeChar (c : Char) : ∃ b bs, String.utf8EncodeChar c = b :: bs ∧
    ∀ rest, decodeRune b (bs ++ rest) = (c, bs.length + 1) := by
  have hofNat {n : Nat} (h : n < 256) : (UInt8.ofNat n).toNat = n := by simpa using h
  have hwithin {lo hi n : Nat} (h : n < 256) : within lo hi (UInt8.ofNat n) = true ↔ lo ≤ n ∧ n ≤ hi := by
    simp [within, hofNat h]
  have hrune {n : Nat} (h : n = c.val.toNat) : Char.ofNat n = c := by
    rw [h]
    exact Char.ofNat_toNat c
  have hvalid : c.val.toNat < 0xD800 ∨ 0xDFFF < c.val.toNat ∧ c.val.toNat < 0x110000 := c.valid
  unfold String.utf8EncodeChar
  dsimp only
  split_ifs
  all_goals
    refine ⟨_, _, rfl, fun rest ↦ ?_⟩
    unfold decodeRune
    simp (disch := omega) only [hofNat, List.cons_append, List.nil_append, secondOfThree, secondOfFour,
      hwithin, Bool.and_eq_true, decide_eq_true_eq]
  · rw [if_pos (by omega), hrune rfl]
    rfl
  · rw [if_neg (by omega), if_pos (by omega), hrune (by omega)]
    rfl
  · rw [if_neg (by omega), if_neg (by omega), if_pos (by split_ifs <;> omega), hrune (by omega)]
    rfl
  · rw [if_neg (by omega), if_neg (by omega), if_neg (by omega), if_pos (by split_ifs <;> omega), hrune (by omega)]
    rfl

theorem decodeFrom_utf8Encode (cs : List Char) : decodeFrom 0 (utf8Encode cs) = cs := by
  induction cs with
  | nil => rfl
  | cons c cs ih =>
    obtain ⟨b, bs, hbytes, hrune⟩ := decodeRune_utf8EncodeChar c
    have hskip (bs rest : Bytes) : decodeFrom bs.length (bs ++ rest) = decodeFrom 0 rest := by
      induction bs with
      | nil => rfl
      | cons _ _ ih => exact ih
    have hcons : utf8Encode (c :: cs) = b :: (bs ++ utf8Encode cs) := by
      rw [utf8Encode, List.flatMap_cons, hbytes]
      rfl
    rw [hcons, decodeFrom, hrune, Nat.add_sub_cancel, hskip, ih]

theorem utf8Encode_injective : Function.Injective utf8Encode :=
  Function.LeftInverse.injective decodeFrom_utf8Encode

theorem hexEncode_injective : Function.Injective hexEncode := by
  intro a b h
  have hdecode := congrArg hexDecode h
  rwa [hexDecode_hexEncode, hexDecode_hexEncode, Option.some_inj] at hdecode

namespace Value

open Json

/-! ## String literals -/

/-- The ways a character is written in a literal: as a letter after a backslash, by four hexadecimal digits,
or as itself. -/
inductive Written (c : Char) : List Char → Prop
  | letter {e : Char} (hu : e ≠ 'u') (he : unescape e = some c) : Written c ['\\', e]
  | unicode {w x y z : Char} (hhex : hex4 w x y z = some c.toNat) (hplain : c.toNat < 0xD800) :
    Written c ['\\', 'u', w, x, y, z]
  | plain (hquote : c ≠ '"') (hslash : c ≠ '\\') (hcontrol : 0x20 ≤ c.toNat) : Written c [c]

theorem written_escapeChar (c : Char) : Written c (escapeChar c) := by
  have htext := escaped_escapeChar c
  generalize escapeChar c = text at htext ⊢
  cases htext with
  | letter he =>
    have hall : ∀ p ∈ letterEscapes, p.2 ≠ 'u' ∧ unescape p.2 = some p.1 := by decide
    exact .letter (hall _ he).1 (hall _ he).2
  | control hn =>
    have hall : ∀ n < 64, hex4 '0' '0' (hexDigit (n / 16)) (hexDigit (n % 16)) = some n := by decide +kernel
    exact .unicode (hall _ hn) (by omega)
  | lineSeparator hn | paragraphSeparator hn => exact .unicode (by rw [hn]; rfl) (by omega)
  | plain hquote hslash hn => exact .plain hquote hslash hn

/-- The decoder reads a written character back and goes on with the rest. -/
theorem Written.parseString_append {c : Char} {cs : List Char} (h : Written c cs) (rest : List Char) :
    parseString (cs ++ rest) = (parseString rest).map fun (s, tail) ↦ (c :: s, tail) := by
  have hmap : (do let (s, tail) ← parseString rest; return (c :: s, tail)) =
      (parseString rest).map fun (s, tail) ↦ (c :: s, tail) := by
    cases parseString rest <;> rfl
  rw [← hmap]
  cases h with
  | letter hu he =>
    rw [List.cons_append, List.singleton_append, parseString, he]
    · rfl
    · intro _ _ _ _ _ h
      exact absurd h hu
  | unicode hhex =>
    have hhigh : isHighSurrogate c.toNat = false := by
      simp only [isHighSurrogate, Bool.and_eq_false_iff, decide_eq_false_iff_not]
      omega
    have hlow : isLowSurrogate c.toNat = false := by
      simp only [isLowSurrogate, Bool.and_eq_false_iff, decide_eq_false_iff_not]
      omega
    simp only [List.cons_append, List.nil_append]
    rw [parseString, hhex]
    simp only [Option.bind_eq_bind, Option.bind_some, hhigh, hlow, Bool.false_and, Bool.false_or,
      Bool.false_eq_true, if_false, Char.ofNat_toNat]
    -- no pair of surrogates begins with this character
    split
    case h_1 hpair =>
      split at hpair
      · split at hpair <;> cases hpair
      · cases hpair
    case h_2 => rfl
  | plain hquote hslash =>
    rw [List.singleton_append, parseString, if_neg (by omega)]
    · exact hquote
    · intro _ _ _ _ _ h
      exact absurd h hslash
    · intro _ _ h
      exact absurd h hslash

/-- A literal is read back up to its closing quote. -/
theorem parseString_flatMap {escape : Char → List Char} (hescape : ∀ c, Written c (escape c)) (s rest : List Char) :
    parseString (s.flatMap escape ++ '"' :: rest) = some (s, rest) := by
  induction s with
  | nil => rfl
  | cons c s ih =>
    rw [List.flatMap_cons, List.append_assoc, (hescape c).parseString_append, ih]
    rfl

/-- A literal can be cut off the front of a text in one way only. -/
theorem quote_append_inj {escape escape' : Char → List Char} (hescape : ∀ c, Written c (escape c))
    (hescape' : ∀ c, Written c (escape' c)) {s t : String} {u v : List Char}
    (h : quote (s.toList.flatMap escape) ++ u = quote (t.toList.flatMap escape') ++ v) : s = t ∧ u = v := by
  simp only [quote, List.cons_append, List.append_assoc, List.cons.injEq, List.nil_append] at h
  have hparse := congrArg parseString h.2
  rw [parseString_flatMap hescape, parseString_flatMap hescape', Option.some_inj, Prod.mk.injEq] at hparse
  exact ⟨String.toList_inj.mp hparse.1, hparse.2⟩

/-! ## Objects -/

/-- The decoder reads the text of a value and leaves what follows it. -/
def Reads (depth : Nat) (v : Value) (j : Json) : Prop :=
  ∀ fuel rest, 2 * (marshalChars v).length < fuel →
    parseValue fuel depth (marshalChars v ++ rest) = some (j, rest)

variable {depth : Nat} {v : Value} {j : Json} {α : Type u} {f : α → String} {value : α → Value} {json : α → Json}
  {fields : List α}

theorem quote_append (s : String) (rest : List Char) :
    quote (s.toList.flatMap escapeChar) ++ rest = '"' :: (s.toList.flatMap escapeChar ++ '"' :: rest) := by
  simp [quote]

theorem Reads.str (s : String) : Reads depth (.str s) (.str s) := by
  rintro (_ | fuel) rest hfuel
  · omega
  · rw [marshalChars, quote_append, parseValue]
    change (parseString _).map _ = _
    rw [parseString_flatMap written_escapeChar, Option.map_some]
    dsimp only
    rw [String.ofList_toList]

/-- A member is its name and its value. -/
theorem Reads.parseMembers (h : Reads depth v j) (k : String) (fuel : Nat) (rest : List Char)
    (hfuel : 2 * (marshalChars v).length < fuel) :
    Json.parseMembers (fuel + 1) depth (quote (k.toList.flatMap escapeChar) ++ ':' :: (marshalChars v ++ rest)) =
      match skipSpace rest with
      | ',' :: rest => do
        let (ms, tail) ← Json.parseMembers fuel depth rest
        return ((k, j) :: ms, tail)
      | '\x7d' :: rest => return ([(k, j)], rest)
      | _ => none := by
  have hcolon (cs : List Char) : expectChar ':' (skipSpace (':' :: cs)) = some cs := rfl
  rw [quote_append, Json.parseMembers]
  change (parseString _ >>= _) = _
  rw [parseString_flatMap written_escapeChar]
  dsimp only [Option.bind_eq_bind, Option.bind_some]
  rewrite [hcolon, Option.bind_some, h fuel rest hfuel, Option.bind_some, String.ofList_toList]
  rfl

theorem parseMembers_marshalMembers (h : ∀ a ∈ fields, Reads depth (value a) (json a)) (hne : fields ≠ [])
    (fuel : Nat) (rest : List Char)
    (hfuel : 2 * (marshalMembers (fields.map fun a ↦ (f a, value a))).length < fuel) :
    Json.parseMembers fuel depth (marshalMembers (fields.map fun a ↦ (f a, value a)) ++ '\x7d' :: rest) =
      some (fields.map fun a ↦ (f a, json a), rest) := by
  induction fields generalizing fuel with
  | nil => exact absurd rfl hne
  | cons a fields ih =>
    obtain ⟨fuel, rfl⟩ := Nat.exists_eq_add_of_le' (Nat.one_le_of_lt hfuel)
    rw [List.forall_mem_cons] at h
    cases fields with
    | nil =>
      simp only [List.map_cons, List.map_nil, marshalMembers, List.length_append, List.length_cons] at hfuel ⊢
      rw [List.append_assoc, List.cons_append, h.1.parseMembers _ fuel _ (by omega)]
      rfl
    | cons b fields =>
      simp only [List.map_cons, marshalMembers, List.length_append, List.length_cons] at hfuel ih ⊢
      have hrest := ih h.2 (List.cons_ne_nil _ _) fuel (by omega)
      rw [List.append_assoc, List.append_assoc, List.cons_append, List.cons_append,
        h.1.parseMembers _ fuel _ (by omega)]
      change (Json.parseMembers fuel depth _ >>= _) = _
      rw [hrest]
      rfl

/-- An object is read member by member, at a greater depth. -/
theorem Reads.obj (h : ∀ a ∈ fields, Reads depth (value a) (json a)) :
    Reads (depth + 1) (.obj (fields.map fun a ↦ (f a, value a))) (.obj (fields.map fun a ↦ (f a, json a))) := by
  rintro (_ | fuel) rest hfuel
  · omega
  cases fields with
  | nil => rfl
  | cons a fields =>
    rw [marshalChars, List.length_append, List.length_cons] at hfuel
    have hmembers := parseMembers_marshalMembers (f := f) h (List.cons_ne_nil _ _) fuel rest (by omega)
    obtain ⟨tail, htail⟩ : ∃ tail,
        marshalMembers ((a :: fields).map fun a ↦ (f a, value a)) = '"' :: tail := by
      cases fields <;> exact ⟨_, rfl⟩
    rw [marshalChars, List.cons_append, List.cons_append, List.append_assoc, List.singleton_append, parseValue]
    rw [htail] at hmembers ⊢
    change (Json.parseMembers fuel depth _).map _ = _
    rw [hmembers]
    rfl

/-- Such a text is read as a whole, with white space behind it. -/
theorem Reads.parse (h : Reads maxNestingDepth v j) (white : List Char) (hwhite : skipSpace white = []) :
    Json.parse (marshalChars v ++ white) = some j := by
  rw [Json.parse, h _ white (by rw [List.length_append]; omega)]
  dsimp only
  rw [hwhite]
  rfl

/-- An object whose members are strings: a `map[string]string`, or a struct with fields of type string. -/
def ofStrings (fields : List (String × String)) : Value := .obj (fields.map fun (k, s) ↦ (k, .str s))

theorem reads_ofStrings (fields : List (String × String)) :
    Reads (depth + 1) (ofStrings fields) (.obj (fields.map fun (k, s) ↦ (k, .str s))) :=
  Reads.obj fun field _ ↦ .str field.2

/-- The bytes of an object of strings determine its members and their order. -/
theorem marshal_ofStrings_injective : Function.Injective fun fields ↦ marshal (ofStrings fields) := by
  intro fields fields' h
  have hread := (reads_ofStrings fields).parse [] rfl
  rw [utf8Encode_injective h, (reads_ofStrings fields').parse [] rfl, Option.some_inj, Json.obj.injEq] at hread
  refine (List.map_injective_iff.mpr ?_ hread).symm
  rintro ⟨_, _⟩ ⟨_, _⟩ hfield
  simpa using hfield

end Value

end Webhookery.Go
