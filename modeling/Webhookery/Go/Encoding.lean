import Webhookery.Go.Strings

/-!
# Bytes and their encodings

UTF-8 as Go converts between strings and byte slices, `encoding/hex`, and the padded and unpadded
variants of `encoding/base64`, each with the round trip that signing followed by verifying needs.
-/

namespace Webhookery.Go

abbrev Bytes := List UInt8

/-! ## UTF-8 -/

/-- The UTF-8 bytes of characters. -/
def utf8Encode (cs : List Char) : Bytes := cs.flatMap String.utf8EncodeChar

/-- The bytes of a string, `[]byte(s)`. -/
def bytesOf (s : String) : Bytes := utf8Encode s.toList

/-- Whether a byte lies between two bounds. -/
def within (lo hi : Nat) (b : UInt8) : Bool :=
  lo ≤ b.toNat && b.toNat ≤ hi

/-- The replacement character for bytes that are not UTF-8. -/
def runeError : Char := Char.ofNat 0xFFFD

/-- The bounds of the second byte after a lead byte of three bytes: no overlong form and no
surrogate. -/
def secondOfThree (lead : Nat) (b : UInt8) : Bool :=
  within (if lead = 0xE0 then 0xA0 else 0x80) (if lead = 0xED then 0x9F else 0xBF) b

/-- The bounds of the second byte after a lead byte of four bytes: no overlong form and nothing
above the last code point. -/
def secondOfFour (lead : Nat) (b : UInt8) : Bool :=
  within (if lead = 0xF0 then 0x90 else 0x80) (if lead = 0xF4 then 0x8F else 0xBF) b

/-- `utf8.DecodeRune`: the rune at the front and its width. Every byte that starts no
well-formed sequence is the replacement character of width one. -/
def decodeRune (b0 : UInt8) (rest : Bytes) : Char × Nat :=
  let n := b0.toNat
  if n < 0x80 then (Char.ofNat n, 1)
  else
    match rest with
    | b1 :: tail =>
      let m := n % 64 * 64 + b1.toNat % 64
      if 0xC2 ≤ n && n ≤ 0xDF && within 0x80 0xBF b1 then
        (Char.ofNat (n % 32 * 64 + b1.toNat % 64), 2)
      else
        match tail with
        | b2 :: tail =>
          if 0xE0 ≤ n && n ≤ 0xEF && secondOfThree n b1 && within 0x80 0xBF b2 then
            (Char.ofNat (m % 1024 * 64 + b2.toNat % 64), 3)
          else
            match tail with
            | b3 :: _ =>
              if 0xF0 ≤ n && n ≤ 0xF4 && secondOfFour n b1 && within 0x80 0xBF b2 &&
                  within 0x80 0xBF b3 then
                (Char.ofNat (m % 512 * 4096 + b2.toNat % 64 * 64 + b3.toNat % 64), 4)
              else (runeError, 1)
            | [] => (runeError, 1)
        | [] => (runeError, 1)
    | [] => (runeError, 1)

/-- The runes of a byte slice; `skip` bytes belong to the rune already read. -/
def decodeFrom : Nat → Bytes → List Char
  | _, [] => []
  | skip + 1, _ :: rest => decodeFrom skip rest
  | 0, b :: rest => (decodeRune b rest).1 :: decodeFrom ((decodeRune b rest).2 - 1) rest

/-- The text that a byte slice is to a consumer of UTF-8: `string(b)` as `encoding/json` and
`range` read it. -/
def stringOf (b : Bytes) : String :=
  String.ofList (decodeFrom 0 b)

/-! ## Hexadecimal -/

/-- The digit for a value below sixteen. -/
def hexDigit (n : Nat) : Char :=
  "0123456789abcdef".toList.getD n '0'

/-- The value of a hexadecimal digit of either case. -/
def hexValue (c : Char) : Option Nat :=
  if '0' ≤ c ∧ c ≤ '9' then some (c.toNat - 48)
  else if 'a' ≤ c ∧ c ≤ 'f' then some (c.toNat - 87)
  else if 'A' ≤ c ∧ c ≤ 'F' then some (c.toNat - 55)
  else none

def hexChars (bs : Bytes) : List Char :=
  bs.flatMap fun b ↦ [hexDigit (b.toNat / 16), hexDigit (b.toNat % 16)]

def unhexChars : List Char → Option Bytes
  | [] => some []
  | [_] => none
  | hi :: lo :: rest => do
    let h ← hexValue hi
    let l ← hexValue lo
    let tail ← unhexChars rest
    return UInt8.ofNat (h * 16 + l) :: tail

/-- `hex.EncodeToString`. -/
def hexEncode (bs : Bytes) : String :=
  String.ofList (hexChars bs)

/-- `hex.DecodeString`. -/
def hexDecode (s : String) : Option Bytes :=
  unhexChars s.toList

theorem hexValue_hexDigit {n : Nat} (hn : n < 16) : hexValue (hexDigit n) = some n := by
  have hall : ∀ k < 16, hexValue (hexDigit k) = some k := by decide
  exact hall n hn

theorem unhexChars_hexChars (bs : Bytes) : unhexChars (hexChars bs) = some bs := by
  induction bs with
  | nil => rfl
  | cons b rest ih =>
    have hb : b.toNat < 256 := b.toNat_lt
    have hhi : b.toNat / 16 < 16 := by omega
    have hlo : b.toNat % 16 < 16 := by omega
    have hsum : b.toNat / 16 * 16 + b.toNat % 16 = b.toNat := by omega
    change unhexChars (hexDigit (b.toNat / 16) :: hexDigit (b.toNat % 16) :: hexChars rest) = _
    simp only [unhexChars, hexValue_hexDigit hhi, hexValue_hexDigit hlo, ih, hsum,
      Option.bind_eq_bind, Option.bind_some, UInt8.ofNat_toNat]
    rfl

@[simp]
theorem hexDecode_hexEncode (bs : Bytes) : hexDecode (hexEncode bs) = some bs := by
  simp [hexDecode, hexEncode, unhexChars_hexChars]

/-- Every character of a hexadecimal encoding is one of the sixteen lower-case digits. -/
theorem hexChars_mem {bs : Bytes} {c : Char} (hc : c ∈ hexChars bs) : c ∈ "0123456789abcdef".toList := by
  have hall : ∀ k < 16, hexDigit k ∈ "0123456789abcdef".toList := by decide
  obtain ⟨b, -, hb⟩ := List.mem_flatMap.mp hc
  have hlt : b.toNat < 256 := b.toNat_lt
  rcases List.mem_pair.mp hb with rfl | rfl
  · exact hall _ (by omega)
  · exact hall _ (by omega)

/-! ## Base64 -/

/-- The digit for a value below sixty-four, given the last two digits of the alphabet. -/
def base64Digit (digit62 digit63 : Char) (n : Nat) : Char :=
  if n = 62 then digit62
  else if n = 63 then digit63
  else "ABCDEFGHIJKLMNOPQRSTUVWXYZabcdefghijklmnopqrstuvwxyz0123456789".toList.getD n 'A'

/-- The value of a digit. -/
def base64Value (digit62 digit63 : Char) (c : Char) : Option Nat :=
  if 'A' ≤ c ∧ c ≤ 'Z' then some (c.toNat - 65)
  else if 'a' ≤ c ∧ c ≤ 'z' then some (c.toNat - 71)
  else if '0' ≤ c ∧ c ≤ '9' then some (c.toNat + 4)
  else if c = digit62 then some 62
  else if c = digit63 then some 63
  else none

/-- An encoding of `encoding/base64`: the last two digits of its alphabet and whether texts are
padded. Every digit has its value back and is none of the characters with another meaning. -/
structure Base64 where
  digit62 : Char
  digit63 : Char
  padded : Bool
  value_digit : ∀ n < 64, base64Value digit62 digit63 (base64Digit digit62 digit63 n) = some n
  digit_plain : ∀ n < 64, base64Digit digit62 digit63 n ∉ ['=', '\r', '\n', '.']

/-- `base64.StdEncoding`. -/
def stdEncoding : Base64 := ⟨'+', '/', true, by decide +kernel, by decide +kernel⟩

/-- `base64.URLEncoding`. -/
def urlEncoding : Base64 := ⟨'-', '_', true, by decide +kernel, by decide +kernel⟩

/-- `base64.RawURLEncoding`. -/
def rawURLEncoding : Base64 := ⟨'-', '_', false, by decide +kernel, by decide +kernel⟩

namespace Base64

variable (enc : Base64)

def digit (n : Nat) : Char := base64Digit enc.digit62 enc.digit63 n

def value (c : Char) : Option Nat := base64Value enc.digit62 enc.digit63 c

/-- The digits of up to three bytes at a time. -/
def encodeChars : Bytes → List Char
  | [] => []
  | [a] =>
    enc.digit (a.toNat / 4) :: enc.digit (a.toNat % 4 * 16) ::
      (if enc.padded then ['=', '='] else [])
  | [a, b] =>
    enc.digit (a.toNat / 4) :: enc.digit (a.toNat % 4 * 16 + b.toNat / 16) ::
      enc.digit (b.toNat % 16 * 4) :: (if enc.padded then ['='] else [])
  | a :: b :: c :: rest =>
    enc.digit (a.toNat / 4) :: enc.digit (a.toNat % 4 * 16 + b.toNat / 16) ::
      enc.digit (b.toNat % 16 * 4 + c.toNat / 64) :: enc.digit (c.toNat % 64) ::
      encodeChars rest

/-- One byte from two digits; the four spare bits are not checked. -/
def oneByte (a b : Char) : Option Bytes := do
  let x ← enc.value a
  let y ← enc.value b
  return [UInt8.ofNat (x * 4 + y / 16)]

/-- Two bytes from three digits; the two spare bits are not checked. -/
def twoBytes (a b c : Char) : Option Bytes := do
  let x ← enc.value a
  let y ← enc.value b
  let z ← enc.value c
  return [UInt8.ofNat (x * 4 + y / 16), UInt8.ofNat (y % 16 * 16 + z / 4)]

def threeBytes (a b c d : Char) : Option Bytes := do
  let x ← enc.value a
  let y ← enc.value b
  let z ← enc.value c
  let w ← enc.value d
  return [UInt8.ofNat (x * 4 + y / 16), UInt8.ofNat (y % 16 * 16 + z / 4),
    UInt8.ofNat (z % 4 * 64 + w)]

/-- Quanta of four digits; only the last may be short, and then it is padded or not as the
encoding says. -/
def decodeQuanta : List Char → Option Bytes
  | [] => some []
  | [_] => none
  | [a, b] => if enc.padded then none else enc.oneByte a b
  | [a, b, c] => if enc.padded then none else enc.twoBytes a b c
  | a :: b :: c :: d :: rest =>
    if enc.padded && d == '=' then
      if !rest.isEmpty then none
      else if c == '=' then enc.oneByte a b
      else enc.twoBytes a b c
    else do
      let front ← enc.threeBytes a b c d
      let tail ← decodeQuanta rest
      return front ++ tail

/-- `EncodeToString`. -/
def encode (bs : Bytes) : String :=
  String.ofList (enc.encodeChars bs)

/-- `DecodeString`: carriage returns and line feeds are ignored. -/
def decode (s : String) : Option Bytes :=
  enc.decodeQuanta (s.toList.filter fun c ↦ c != '\r' && c != '\n')

section RoundTrip

variable {enc}

theorem value_digit_of_lt {n : Nat} (hn : n < 64) : enc.value (enc.digit n) = some n :=
  enc.value_digit n hn

theorem digit_ne_pad {n : Nat} (hn : n < 64) : enc.digit n ≠ '=' := fun heq ↦
  enc.digit_plain n hn (List.mem_cons.mpr (Or.inl heq))

theorem oneByte_digits (a : UInt8) :
    enc.oneByte (enc.digit (a.toNat / 4)) (enc.digit (a.toNat % 4 * 16)) = some [a] := by
  have ha : a.toNat < 256 := a.toNat_lt
  have hsum : a.toNat / 4 * 4 + a.toNat % 4 * 16 / 16 = a.toNat := by omega
  simp (disch := omega) only [oneByte, value_digit_of_lt, Option.bind_eq_bind, Option.bind_some, hsum,
    UInt8.ofNat_toNat]
  rfl

theorem twoBytes_digits (a b : UInt8) :
    enc.twoBytes (enc.digit (a.toNat / 4)) (enc.digit (a.toNat % 4 * 16 + b.toNat / 16))
      (enc.digit (b.toNat % 16 * 4)) = some [a, b] := by
  have ha : a.toNat < 256 := a.toNat_lt
  have hb : b.toNat < 256 := b.toNat_lt
  have hfst : a.toNat / 4 * 4 + (a.toNat % 4 * 16 + b.toNat / 16) / 16 = a.toNat := by omega
  have hsnd : (a.toNat % 4 * 16 + b.toNat / 16) % 16 * 16 + b.toNat % 16 * 4 / 4 = b.toNat := by
    omega
  simp (disch := omega) only [twoBytes, value_digit_of_lt, Option.bind_eq_bind, Option.bind_some, hfst, hsnd,
    UInt8.ofNat_toNat]
  rfl

theorem threeBytes_digits (a b c : UInt8) :
    enc.threeBytes (enc.digit (a.toNat / 4)) (enc.digit (a.toNat % 4 * 16 + b.toNat / 16))
      (enc.digit (b.toNat % 16 * 4 + c.toNat / 64)) (enc.digit (c.toNat % 64)) =
      some [a, b, c] := by
  have ha : a.toNat < 256 := a.toNat_lt
  have hb : b.toNat < 256 := b.toNat_lt
  have hc : c.toNat < 256 := c.toNat_lt
  have hfst : a.toNat / 4 * 4 + (a.toNat % 4 * 16 + b.toNat / 16) / 16 = a.toNat := by omega
  have hsnd : (a.toNat % 4 * 16 + b.toNat / 16) % 16 * 16 +
      (b.toNat % 16 * 4 + c.toNat / 64) / 4 = b.toNat := by omega
  have htrd : (b.toNat % 16 * 4 + c.toNat / 64) % 4 * 64 + c.toNat % 64 = c.toNat := by omega
  simp (disch := omega) only [threeBytes, value_digit_of_lt, Option.bind_eq_bind, Option.bind_some, hfst, hsnd,
    htrd, UInt8.ofNat_toNat]
  rfl

/-- Decoding an encoding gives the bytes back, padded or not. -/
theorem decodeQuanta_encodeChars (bs : Bytes) : enc.decodeQuanta (enc.encodeChars bs) = some bs := by
  fun_induction encodeChars enc bs with
  | case1 => rfl
  | case2 =>
    cases hpad : enc.padded <;> simp [decodeQuanta, hpad, oneByte_digits]
  | case3 a b =>
    have hb : b.toNat < 256 := b.toNat_lt
    have hne : enc.digit (b.toNat % 16 * 4) ≠ '=' := digit_ne_pad (by omega)
    cases hpad : enc.padded <;> simp [decodeQuanta, hpad, hne, twoBytes_digits]
  | case4 a b c _ ih =>
    have hne : enc.digit (c.toNat % 64) ≠ '=' := digit_ne_pad (by omega)
    simp [decodeQuanta, hne, threeBytes_digits, ih]

/-- An encoding uses digits and padding only, so it holds no line break and no dot. -/
theorem encodeChars_plain {bs : Bytes} {c : Char} (hc : c ∈ enc.encodeChars bs) : c ∉ ['\r', '\n', '.'] := by
  have hdigit : ∀ n < 64, enc.digit n ∉ ['\r', '\n', '.'] := fun n hn hmem ↦
    enc.digit_plain n hn (List.mem_cons_of_mem _ hmem)
  have hpad : '=' ∉ ['\r', '\n', '.'] := by decide
  have hbyte : ∀ b : UInt8, b.toNat < 256 := fun b ↦ b.toNat_lt
  fun_induction encodeChars enc bs with
  | case1 => simp at hc
  | case2 a =>
    have ha := hbyte a
    have hx := hdigit (a.toNat / 4) (by omega)
    have hy := hdigit (a.toNat % 4 * 16) (by omega)
    cases hp : enc.padded <;> simp only [hp, if_true, Bool.false_eq_true, if_false, List.mem_cons,
      List.not_mem_nil, or_false] at hc <;> grind
  | case3 a b =>
    have ha := hbyte a
    have hb := hbyte b
    have hx := hdigit (a.toNat / 4) (by omega)
    have hy := hdigit (a.toNat % 4 * 16 + b.toNat / 16) (by omega)
    have hz := hdigit (b.toNat % 16 * 4) (by omega)
    cases hp : enc.padded <;> simp only [hp, if_true, Bool.false_eq_true, if_false, List.mem_cons,
      List.not_mem_nil, or_false] at hc <;> grind
  | case4 a b c' _ ih =>
    have ha := hbyte a
    have hb := hbyte b
    have hc' := hbyte c'
    simp only [List.mem_cons] at hc
    rcases hc with rfl | rfl | rfl | rfl | hc
    · exact hdigit _ (by omega)
    · exact hdigit _ (by omega)
    · exact hdigit _ (by omega)
    · exact hdigit _ (by omega)
    · exact ih hc

@[simp]
theorem decode_encode (bs : Bytes) : enc.decode (enc.encode bs) = some bs := by
  have hkeep : ∀ c ∈ enc.encodeChars bs, (c != '\r' && c != '\n') = true := by
    intro c hc
    have hplain := encodeChars_plain hc
    grind
  rw [decode, encode, String.toList_ofList, List.filter_eq_self.mpr hkeep]
  exact decodeQuanta_encodeChars bs

end RoundTrip

end Base64

end Webhookery.Go
