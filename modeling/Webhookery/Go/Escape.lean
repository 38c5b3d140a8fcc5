import Webhookery.Go.Json

/-!
# The escape of the zero character

`encoding/json` writes a zero character as `\u0000` and nothing else in that way. A scan of a
marshalled text therefore finds the escape exactly when a string or a key of the value holds a zero
character.
-/

namespace Webhookery.Go

/-- Whether a JSON text holds the escape of the zero character. An escaped backslash is skipped
with the character after it. -/
def hasNulEscape : Bytes → Bool
  | [] => false
  | 0x5c :: 0x75 :: 0x30 :: 0x30 :: 0x30 :: 0x30 :: _ => true
  | 0x5c :: _ :: rest => hasNulEscape rest
  | _ :: rest => hasNulEscape rest

/-- Whether a string holds the zero character. -/
def hasNul (s : String) : Bool := s.toList.contains '\x00'

namespace Value

mutual

/-- Whether a string or a key of a value holds the zero character. -/
def hasNul : Value → Bool
  | .str s => Go.hasNul s
  | .raw b => b.contains 0
  | .arr items => hasNulItems items
  | .obj members => hasNulMembers members
  | .null => false
  | .bool _ => false
  | .num _ => false
  | .nilMap => false

def hasNulItems : List Value → Bool
  | [] => false
  | v :: rest => v.hasNul || hasNulItems rest

def hasNulMembers : Members → Bool
  | [] => false
  | (k, v) :: rest => Go.hasNul k || v.hasNul || hasNulMembers rest

end

end Value

/-! ## Scanning -/

variable {b : UInt8} {rest : Bytes} {c : Char} {n : Nat}

theorem hasNulEscape_cons (hb : b ≠ 0x5c) : hasNulEscape (b :: rest) = hasNulEscape rest := by
  rw [hasNulEscape]
  · intro _ h
    exact absurd h hb
  · intro _ _ h
    exact absurd h hb

/-- A run of bytes without a backslash is skipped. -/
theorem hasNulEscape_append {bs rest : Bytes} (hbs : ∀ b ∈ bs, b ≠ 0x5c) :
    hasNulEscape (bs ++ rest) = hasNulEscape rest := by
  induction bs with
  | nil => rfl
  | cons b _ ih =>
    rw [List.cons_append, hasNulEscape_cons (hbs b List.mem_cons_self)]
    exact ih fun b' hb' ↦ hbs b' (List.mem_cons_of_mem b hb')

theorem utf8Encode_append (cs ds : List Char) : utf8Encode (cs ++ ds) = utf8Encode cs ++ utf8Encode ds :=
  List.flatMap_append

/-- Only the backslash is encoded with its byte. -/
theorem ne_backslash_of_mem_utf8EncodeChar (hc : c ≠ '\\') (hb : b ∈ String.utf8EncodeChar c) : b ≠ 0x5c := by
  have hval : c.val.toNat ≠ 0x5c := fun h ↦ hc (Char.ext (UInt32.toNat_inj.mp h))
  rintro rfl
  have hofNat {n : Nat} (h : 0x5c = UInt8.ofNat n) : n % 256 = 0x5c := by
    simpa using (congrArg UInt8.toNat h).symm
  -- every byte of a longer sequence has its highest bit set
  have hhigh {n : Nat} (h : 0x5c = UInt8.ofNat n) (hlo : 128 ≤ n) (hhi : n < 256) : False := by
    have hn := hofNat h
    omega
  unfold String.utf8EncodeChar at hb
  dsimp only at hb
  split_ifs at hb
  · have hn := hofNat (List.mem_singleton.mp hb)
    omega
  all_goals simp only [List.mem_cons, List.not_mem_nil, or_false] at hb
  · rcases hb with h | h <;> exact hhigh h (by omega) (by omega)
  · rcases hb with h | h | h <;> exact hhigh h (by omega) (by omega)
  · rcases hb with h | h | h | h <;> exact hhigh h (by omega) (by omega)

/-- The scan of a text goes on behind it, having found the escape exactly when `found` says so. -/
def Scans (cs : List Char) (found : Bool) : Prop :=
  ∀ rest, hasNulEscape (utf8Encode cs ++ rest) = (found || hasNulEscape rest)

theorem Scans.append {cs ds : List Char} {found found' : Bool} (h : Scans cs found) (h' : Scans ds found') :
    Scans (cs ++ ds) (found || found') := by
  intro rest
  rw [utf8Encode_append, List.append_assoc, h, h', Bool.or_assoc]

/-- A text without a backslash is skipped. -/
theorem scans_plain {cs : List Char} (hcs : ∀ c ∈ cs, c ≠ '\\') : Scans cs false := by
  intro rest
  apply hasNulEscape_append
  intro b hb
  obtain ⟨c, hc, hmem⟩ := List.mem_flatMap.mp hb
  exact ne_backslash_of_mem_utf8EncodeChar (hcs c hc) hmem

theorem scans_char (hc : c ≠ '\\') : Scans [c] false :=
  scans_plain fun d hd ↦ by rwa [List.mem_singleton.mp hd]

/-! ## Escapes -/

theorem hasNulEscape_unicode {a b c d : UInt8} (h : ∀ x ∈ [a, b, c, d], x ≠ 0x5c) :
    hasNulEscape (0x5c :: 0x75 :: a :: b :: c :: d :: rest) =
      ([a, b, c, d] == [0x30, 0x30, 0x30, 0x30] || hasNulEscape rest) := by
  by_cases hzero : [a, b, c, d] = [0x30, 0x30, 0x30, 0x30]
  · cases hzero
    rfl
  · have hne : ([a, b, c, d] == [0x30, 0x30, 0x30, 0x30]) = false := beq_false_of_ne hzero
    rw [hne, Bool.false_or, hasNulEscape]
    · exact hasNulEscape_append h
    · intro _ _ htail
      simp only [List.cons.injEq] at htail
      exact hzero (by simp [htail])

/-- The characters written with four hexadecimal digits, all below 64 but for two separators. -/
theorem hasNulEscape_control (hn : n < 64) (rest : Bytes) :
    hasNulEscape (utf8Encode ['\\', 'u', '0', '0', hexDigit (n / 16), hexDigit (n % 16)] ++ rest) =
      (n == 0 || hasNulEscape rest) := by
  have hdigit : ∀ d < 16, utf8Encode [hexDigit d] = [UInt8.ofNat (hexDigit d).toNat] ∧
      UInt8.ofNat (hexDigit d).toNat ≠ 0x5c ∧ (UInt8.ofNat (hexDigit d).toNat = 0x30 ↔ d = 0) := by
    decide +kernel
  obtain ⟨hhigh, hhigh', hhigh₀⟩ := hdigit (n / 16) (by omega)
  obtain ⟨hlow, hlow', hlow₀⟩ := hdigit (n % 16) (by omega)
  have htext := utf8Encode_append ['\\', 'u', '0', '0'] ([hexDigit (n / 16)] ++ [hexDigit (n % 16)])
  rw [utf8Encode_append [_], hhigh, hlow] at htext
  have hzero : (n == 0) = ([0x30, 0x30, UInt8.ofNat (hexDigit (n / 16)).toNat,
      UInt8.ofNat (hexDigit (n % 16)).toNat] == [0x30, 0x30, 0x30, 0x30]) := by
    rw [Bool.eq_iff_iff]
    simp only [beq_iff_eq, List.cons.injEq, hhigh₀, hlow₀, true_and, and_true]
    omega
  rw [hzero]
  refine (congrArg (hasNulEscape <| · ++ rest) htext).trans (hasNulEscape_unicode ?_)
  simp [hhigh', hlow']

/-- The characters that are escaped by a letter. -/
def letterEscapes : List (Char × Char) :=
  [('"', '"'), ('\\', '\\'), ('\x08', 'b'), ('\x0c', 'f'), ('\n', 'n'), ('\r', 'r'), ('\t', 't')]

/-- How a character is written: by a letter, by four hexadecimal digits, or as itself. -/
inductive Escaped (c : Char) : List Char → Prop where
  | letter {e : Char} (he : (c, e) ∈ letterEscapes) : Escaped c ['\\', e]
  | control (hn : c.toNat < 64) :
      Escaped c ['\\', 'u', '0', '0', hexDigit (c.toNat / 16), hexDigit (c.toNat % 16)]
  | lineSeparator (hn : c.toNat = 0x2028) : Escaped c ['\\', 'u', '2', '0', '2', '8']
  | paragraphSeparator (hn : c.toNat = 0x2029) : Escaped c ['\\', 'u', '2', '0', '2', '9']
  | plain (hquote : c ≠ '"') (hslash : c ≠ '\\') (hn : 0x20 ≤ c.toNat) : Escaped c [c]

theorem escaped_escapeChar (c : Char) : Escaped c (Value.escapeChar c) := by
  unfold Value.escapeChar
  split_ifs with h₁ h₂ h₃ h₄ h₅ h₆ h₇ h₈ h₉ h₁₀
  iterate 7 exact .letter (by subst_vars; decide)
  · refine .control ?_
    rcases h₈ with h | rfl | rfl | rfl
    · omega
    all_goals decide
  · exact .lineSeparator h₉
  · exact .paragraphSeparator h₁₀
  · exact .plain h₁ h₂ (by omega)

/-- The escape of a character is that of the zero character, or is skipped. -/
theorem scans_escapeChar (c : Char) : Scans (Value.escapeChar c) (c == '\x00') := by
  have hother (h : 0 < c.toNat) : (c == '\x00') = false := by
    rw [beq_eq_false_iff_ne]
    rintro rfl
    exact absurd h (by decide)
  have htext := escaped_escapeChar c
  generalize Value.escapeChar c = text at htext ⊢
  intro rest
  cases htext with
  | letter he =>
    have hbytes : ∀ p ∈ letterEscapes, utf8Encode ['\\', p.2] = [0x5c, UInt8.ofNat p.2.toNat] ∧
        UInt8.ofNat p.2.toNat ≠ 0x75 ∧ 0 < p.1.toNat := by decide +kernel
    obtain ⟨heq, hne, hpos⟩ := hbytes _ he
    rw [heq, hother hpos, List.cons_append, List.cons_append, List.nil_append, hasNulEscape, Bool.false_or]
    exact fun _ h _ ↦ hne h
  | control hn =>
    rw [hasNulEscape_control hn]
    congr 1
    rw [Bool.eq_iff_iff, beq_iff_eq, beq_iff_eq]
    exact ⟨fun h ↦ Char.toNat_inj.mp h, fun h ↦ by rw [h]; rfl⟩
  | lineSeparator | paragraphSeparator =>
    rw [hother (by omega)]
    rfl
  | plain _ hslash =>
    rw [hother (by omega)]
    exact scans_char hslash rest

/-- The text of a string. -/
theorem scans_flatMap_escapeChar (cs : List Char) : Scans (cs.flatMap Value.escapeChar) (cs.contains '\x00') := by
  induction cs with
  | nil => exact fun _ ↦ rfl
  | cons c _ ih =>
    rw [List.flatMap_cons, List.contains_cons, BEq.comm]
    exact (scans_escapeChar c).append ih

theorem ofNat_beq_nul (hn : n.isValidChar) : (Char.ofNat n == '\x00') = (n == 0) := by
  rw [Bool.eq_iff_iff, beq_iff_eq, beq_iff_eq, ← Char.toNat_inj, Char.ofNat, dif_pos hn]
  rfl

theorem ofNat_ne_nul (hn : n.isValidChar) (hpos : 0 < n) : (Char.ofNat n == '\x00') = false := by
  rw [ofNat_beq_nul hn]
  exact beq_false_of_ne (Nat.ne_of_gt hpos)

theorem ne_zero_of_toNat_pos (h : 0 < b.toNat) : b ≠ 0 := by
  rintro rfl
  exact absurd h (by decide)

theorem ne_zero_of_within {lo hi : Nat} (hlo : 0 < lo) (h : within lo hi b = true) : b ≠ 0 := by
  rintro rfl
  simp only [within, Bool.and_eq_true, decide_eq_true_eq] at h
  exact absurd h.1 (Nat.not_le.mpr hlo)

theorem secondOfThree_bounds {lead : Nat} (h : secondOfThree lead b = true) :
    0x80 ≤ b.toNat ∧ b.toNat ≤ 0xBF ∧ (lead = 0xE0 → 0xA0 ≤ b.toNat) ∧
      (lead = 0xED → b.toNat ≤ 0x9F) := by
  simp only [secondOfThree, within, Bool.and_eq_true, decide_eq_true_eq] at h
  split_ifs at h <;> omega

theorem secondOfFour_bounds {lead : Nat} (h : secondOfFour lead b = true) :
    0x80 ≤ b.toNat ∧ b.toNat ≤ 0xBF ∧ (lead = 0xF0 → 0x90 ≤ b.toNat) ∧
      (lead = 0xF4 → b.toNat ≤ 0x8F) := by
  simp only [secondOfFour, within, Bool.and_eq_true, decide_eq_true_eq] at h
  split_ifs at h <;> omega

/-- What is known of a decoded rune: it is zero when its first byte is, and the bytes that belong to
it besides are not zero. -/
theorem decodeRune_spec (b : UInt8) (rest : Bytes) :
    (((decodeRune b rest).1 == '\x00') = (0 == b)) ∧
      ∀ b' ∈ rest.take ((decodeRune b rest).2 - 1), b' ≠ 0 := by
  have hb : b.toNat < 256 := b.toNat_lt
  unfold decodeRune
  dsimp only
  split
  case isTrue =>
    refine ⟨?_, nofun⟩
    rw [ofNat_beq_nul (.inl (by omega)), Bool.eq_iff_iff, beq_iff_eq, beq_iff_eq, ← UInt8.toNat_inj]
    exact eq_comm
  case isFalse hge =>
    have hnonzero : (0 == b) = false := by
      apply beq_false_of_ne
      rintro rfl
      exact hge (by decide)
    have herror : ((runeError == '\x00') = (0 == b)) ∧ ∀ b' ∈ rest.take (1 - 1), b' ≠ 0 := by
      rw [hnonzero]
      exact ⟨by decide, nofun⟩
    rw [hnonzero] at herror ⊢
    split
    case h_2 => exact herror
    case h_1 b1 tail =>
      split
      case isTrue h =>
        simp only [Bool.and_eq_true, decide_eq_true_eq] at h
        refine ⟨ofNat_ne_nul (.inl (by omega)) (by omega), List.forall_mem_singleton.mpr ?_⟩
        exact ne_zero_of_within (by decide) h.2
      case isFalse =>
        split
        case h_2 => exact herror
        case h_1 b2 tail =>
          split
          case isTrue h =>
            simp only [Bool.and_eq_true, decide_eq_true_eq] at h
            obtain ⟨_, _, _, _⟩ := secondOfThree_bounds h.1.2
            refine ⟨ofNat_ne_nul ?_ (by omega), List.forall_mem_cons.mpr ⟨?_, List.forall_mem_singleton.mpr ?_⟩⟩
            · unfold Nat.isValidChar
              omega
            · exact ne_zero_of_toNat_pos (by omega)
            · exact ne_zero_of_within (by decide) h.2
          case isFalse =>
            split
            case h_2 => exact herror
            case h_1 b3 _ =>
              split
              case isTrue h =>
                simp only [Bool.and_eq_true, decide_eq_true_eq] at h
                obtain ⟨_, _, _, _⟩ := secondOfFour_bounds h.1.1.2
                refine ⟨ofNat_ne_nul ?_ (by omega),
                  List.forall_mem_cons.mpr ⟨?_, List.forall_mem_cons.mpr ⟨?_, List.forall_mem_singleton.mpr ?_⟩⟩⟩
                · unfold Nat.isValidChar
                  omega
                · exact ne_zero_of_toNat_pos (by omega)
                · exact ne_zero_of_within (by decide) h.1.2
                · exact ne_zero_of_within (by decide) h.2
              case isFalse => exact herror

theorem scans_escapeBytes (skip : Nat) (bs : Bytes) (hskip : ∀ b ∈ bs.take skip, b ≠ 0) :
    Scans (Value.escapeBytes skip bs) (bs.contains 0) := by
  induction bs generalizing skip with
  | nil => cases skip <;> exact fun _ ↦ rfl
  | cons b bs ih =>
    cases skip with
    | succ skip =>
      have hb : b ≠ 0 := hskip b (by simp)
      rw [List.contains_cons, beq_false_of_ne hb.symm, Bool.false_or]
      exact ih skip fun b' hb' ↦ hskip b' (by simp [hb'])
    | zero =>
      obtain ⟨hzero, hrest⟩ := decodeRune_spec b bs
      rw [Value.escapeBytes, List.contains_cons, ← hzero]
      generalize decodeRune b bs = rune at hrest ⊢
      refine Scans.append ?_ (ih _ hrest)
      split
      case isTrue h =>
        rw [Bool.and_eq_true, decide_eq_true_eq] at h
        rw [h.1]
        exact fun _ ↦ rfl
      case isFalse => exact scans_escapeChar _

/-! ## Numbers -/

/-- The characters of a number. -/
def isNumberChar (c : Char) : Bool := c.isDigit || ['-', '+', '.', 'e'].contains c

theorem ne_backslash_of_isNumberChar (h : isNumberChar c = true) : c ≠ '\\' := by
  rintro rfl
  exact absurd h (by decide)

theorem isNumberChar_of_mem_toDigits (h : c ∈ Nat.toDigits 10 n) : isNumberChar c = true := by
  rw [isNumberChar, Nat.isDigit_of_mem_toDigits (by decide) (by decide) h, Bool.true_or]

theorem isNumberChar_of_mem_replicate (h : c ∈ List.replicate n '0') : isNumberChar c = true := by
  rw [List.eq_of_mem_replicate h]
  rfl

namespace Float64

theorem isNumberChar_of_mem_shortest {f : Float64} (h : c ∈ f.shortest.1) : isNumberChar c = true := by
  have hzero (h : c ∈ ['0']) : isNumberChar c = true := by
    rw [List.mem_singleton.mp h]
    rfl
  unfold shortest at h
  split at h
  · exact hzero h
  · split at h
    · rw [List.mem_reverse] at h
      have hmem := (List.dropWhile_sublist _).mem h
      exact isNumberChar_of_mem_toDigits (List.mem_reverse.mp hmem)
    · exact hzero h

theorem isNumberChar_of_mem_fixedChars {digits : List Char} {point : Int}
    (hdigits : ∀ c ∈ digits, isNumberChar c = true) :
    ∀ c ∈ fixedChars digits point, isNumberChar c = true := by
  intro c h
  unfold fixedChars at h
  split_ifs at h
  · simp only [List.cons_append, List.mem_cons, List.mem_append] at h
    rcases h with rfl | rfl | h | h
    · rfl
    · rfl
    · exact isNumberChar_of_mem_replicate h
    · exact hdigits c h
  · rcases List.mem_append.mp h with h | h
    · exact hdigits c h
    · exact isNumberChar_of_mem_replicate h
  · rcases List.mem_append.mp h with h | h
    · exact hdigits c (List.mem_of_mem_take h)
    · rcases List.mem_cons.mp h with rfl | h
      · rfl
      · exact hdigits c (List.mem_of_mem_drop h)

theorem isNumberChar_of_mem_scientificChars {width : Nat} {digits : List Char} {point : Int}
    (hdigits : ∀ c ∈ digits, isNumberChar c = true) :
    ∀ c ∈ scientificChars width digits point, isNumberChar c = true := by
  intro c h
  unfold scientificChars at h
  simp only [List.mem_append, List.mem_cons] at h
  rcases h with (h | rfl | rfl | h) | h
  · split at h
    · rename_i d d' rest
      simp only [List.mem_cons] at h hdigits
      rcases h with rfl | rfl | h
      · exact hdigits c (.inl rfl)
      · rfl
      · exact hdigits c (.inr h)
    · exact hdigits c h
  · rfl
  · split <;> rfl
  · exact isNumberChar_of_mem_replicate h
  · exact isNumberChar_of_mem_toDigits h

theorem isNumberChar_of_mem_jsonChars {f : Float64} : ∀ c ∈ f.jsonChars, isNumberChar c = true := by
  intro c h
  unfold jsonChars at h
  have hdigits : ∀ c ∈ f.shortest.1, isNumberChar c = true := fun _ ↦ isNumberChar_of_mem_shortest
  rcases List.mem_append.mp h with h | h
  · unfold signChars at h
    split at h
    · rw [List.mem_singleton.mp h]
      rfl
    · cases h
  · split_ifs at h
    · exact isNumberChar_of_mem_scientificChars hdigits c h
    · exact isNumberChar_of_mem_scientificChars hdigits c h
    · rw [List.mem_singleton.mp h]
      rfl
    · exact isNumberChar_of_mem_fixedChars hdigits c h

end Float64

/-! ## Values -/

/-- A text between two characters. -/
theorem Scans.between {cs : List Char} {found : Bool} {d : Char} (h : Scans cs found) (hc : c ≠ '\\')
    (hd : d ≠ '\\') : Scans (c :: cs ++ [d]) found := by
  have hall := ((scans_char hc).append h).append (scans_char hd)
  rwa [Bool.or_false, Bool.false_or] at hall

namespace Value

theorem scans_str (s : String) : Scans (quote (s.toList.flatMap escapeChar)) (Go.hasNul s) :=
  (scans_flatMap_escapeChar _).between (by decide) (by decide)

theorem scans_member {v : Value} (k : String) (h : Scans v.marshalChars v.hasNul) :
    Scans (quote (k.toList.flatMap escapeChar) ++ ':' :: v.marshalChars) (Go.hasNul k || v.hasNul) :=
  (scans_str k).append ((scans_char (by decide)).append h)

mutual

theorem scans_marshalChars (v : Value) : Scans v.marshalChars v.hasNul := by
  cases v with
  | null | nilMap => exact scans_plain (by simp [marshalChars])
  | bool b => cases b <;> exact scans_plain (by simp [marshalChars])
  | num =>
    exact scans_plain fun c hc ↦ ne_backslash_of_isNumberChar (Float64.isNumberChar_of_mem_jsonChars c hc)
  | str s => exact scans_str s
  | raw b => exact (scans_escapeBytes 0 b (by simp)).between (by decide) (by decide)
  | arr items => exact (scans_marshalItems items).between (by decide) (by decide)
  | obj members => exact (scans_marshalMembers members).between (by decide) (by decide)

theorem scans_marshalItems (items : List Value) : Scans (marshalItems items) (hasNulItems items) := by
  match items with
  | [] => exact fun _ ↦ rfl
  | [v] =>
    rw [marshalItems, hasNulItems, hasNulItems, Bool.or_false]
    exact scans_marshalChars v
  | v :: w :: items =>
    rw [marshalItems, hasNulItems]
    · exact (scans_marshalChars v).append ((scans_char (by decide)).append (scans_marshalItems (w :: items)))
    · simp

theorem scans_marshalMembers (members : Members) : Scans (marshalMembers members) (hasNulMembers members) := by
  match members with
  | [] => exact fun _ ↦ rfl
  | [(k, v)] =>
    rw [marshalMembers, hasNulMembers, hasNulMembers, Bool.or_false]
    exact scans_member k (scans_marshalChars v)
  | (k, v) :: m :: members =>
    rw [marshalMembers, hasNulMembers]
    · exact (scans_member k (scans_marshalChars v)).append
        ((scans_char (by decide)).append (scans_marshalMembers (m :: members)))
    · simp

end

/-- A marshalled value holds the escape exactly when the value holds a zero character. -/
theorem hasNulEscape_marshal (v : Value) : hasNulEscape v.marshal = v.hasNul := by
  have h := scans_marshalChars v []
  rwa [List.append_nil, hasNulEscape, Bool.or_false] at h

/-! ### Map literals -/

theorem mem_keys_insertKey {key k : String} {v : Value} {m : Members} :
    k ∈ (insertKey key v m).map Prod.fst ↔ k = key ∨ k ∈ m.map Prod.fst := by
  induction m with
  | nil => simp [insertKey]
  | cons entry m ih =>
    obtain ⟨_, _⟩ := entry
    unfold insertKey
    split_ifs with hsame hless
    · subst hsame
      simp
    · simp
    · rw [List.map_cons, List.mem_cons, ih, List.map_cons, List.mem_cons]
      tauto

theorem hasNulMembers_insertKey {key : String} {v : Value} {m : Members} (hkey : key ∉ m.map Prod.fst) :
    hasNulMembers (insertKey key v m) = (Go.hasNul key || v.hasNul || hasNulMembers m) := by
  induction m with
  | nil => rfl
  | cons entry m ih =>
    obtain ⟨_, _⟩ := entry
    rw [List.map_cons, List.mem_cons, not_or] at hkey
    unfold insertKey
    rw [if_neg hkey.1]
    split
    · rfl
    · rw [hasNulMembers, ih hkey.2, hasNulMembers]
      simp only [Bool.or_assoc, Bool.or_left_comm]

/-- A map literal with distinct keys holds what its entries hold. -/
theorem hasNulMembers_ofMembers {members : Members} (h : (members.map Prod.fst).Nodup) :
    hasNulMembers (ofMembers members) = hasNulMembers members := by
  suffices hfold : ∀ m : Members, (∀ k ∈ members.map Prod.fst, k ∉ m.map Prod.fst) →
      hasNulMembers (members.foldl (fun m e ↦ insertKey e.1 e.2 m) m) =
        (hasNulMembers m || hasNulMembers members) by
    exact (hfold [] (by simp)).trans (by rw [hasNulMembers, Bool.false_or])
  induction members with
  | nil =>
    intro m _
    rw [List.foldl_nil, hasNulMembers.eq_1, Bool.or_false]
  | cons entry _ ih =>
    intro m hdisjoint
    obtain ⟨_, _⟩ := entry
    rw [List.map_cons, List.nodup_cons] at h
    rw [List.map_cons, List.forall_mem_cons] at hdisjoint
    rw [List.foldl_cons, ih h.2, hasNulMembers_insertKey hdisjoint.1, hasNulMembers]
    · simp only [Bool.or_assoc, Bool.or_left_comm]
    · intro k' hk' hmem
      rcases mem_keys_insertKey.mp hmem with rfl | hold
      · exact h.1 hk'
      · exact hdisjoint.2 k' hk' hold

end Value

/-! ## Texts -/

theorem hasNul_append (s t : String) : hasNul (s ++ t) = (hasNul s || hasNul t) := by
  simp only [hasNul, String.toList_append, List.contains_append]

theorem hasNul_hexEncode (bs : Bytes) : hasNul (hexEncode bs) = false := by
  rw [hasNul, hexEncode, String.toList_ofList, Bool.eq_false_iff, ne_eq, List.contains_iff_mem]
  intro hmem
  exact absurd (hexChars_mem hmem) (by decide)

end Webhookery.Go
