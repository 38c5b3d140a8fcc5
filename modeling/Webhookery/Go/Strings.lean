import Mathlib.Data.List.Basic

/-!
# Strings

The functions of Go's `strings` package that the modelled code calls. A Go string is a Lean
`String`; the functions work on its list of characters, so they evaluate in the kernel.
`ToLower` is Unicode's simple lower-case mapping and `TrimSpace` uses Unicode's white space.
-/

namespace Webhookery.Go

/-! ## Lists of characters -/

/-- `strings.ReplaceAll` on any list: the first argument is never rescanned after a replacement.
`skip` counts the elements of a match that are still to be dropped. -/
def replaceFrom {α : Type} [BEq α] (old new : List α) : Nat → List α → List α
  | _, [] => []
  | skip + 1, _ :: rest => replaceFrom old new skip rest
  | 0, x :: rest =>
    if old.isPrefixOf (x :: rest) then new ++ replaceFrom old new (old.length - 1) rest
    else x :: replaceFrom old new 0 rest

/-- The part before the first occurrence of `sep`, and the part from it on. -/
def breakAt {α : Type} [BEq α] (sep : List α) : List α → Option (List α × List α)
  | [] => if sep.isEmpty then some ([], []) else none
  | x :: rest =>
    if sep.isPrefixOf (x :: rest) then some ([], x :: rest)
    else (breakAt sep rest).map fun (before, tail) ↦ (x :: before, tail)

/-- A text up to the first separator. -/
theorem breakAt_append {sep : Char} {before : List Char} (rest : List Char) (h : sep ∉ before) :
    breakAt [sep] (before ++ sep :: rest) = some (before, sep :: rest) := by
  induction before with
  | nil => simp [breakAt]
  | cons c _ ih =>
    rw [List.mem_cons, not_or] at h
    simp [breakAt, h.1, ih h.2]

theorem append_sep_inj {sep : Char} {a b r s : List Char} (ha : sep ∉ a) (hb : sep ∉ b)
    (h : a ++ sep :: r = b ++ sep :: s) : a = b ∧ r = s := by
  have hbreak := congrArg (breakAt [sep]) h
  rw [breakAt_append r ha, breakAt_append s hb] at hbreak
  simpa using hbreak

/-! ## Case -/

/-- Characters `first, first + stride, ..., last`, lower-cased by adding `delta`. -/
structure CaseRange where
  (first last stride : Nat)
  delta : Int

/-- Unicode's simple lower-case mapping outside ASCII. -/
def lowerRanges : List CaseRange :=
  [⟨192, 214, 1, 32⟩, ⟨216, 222, 1, 32⟩, ⟨256, 302, 2, 1⟩, ⟨304, 304, 1, -199⟩, ⟨306, 310, 2, 1⟩,
   ⟨313, 327, 2, 1⟩, ⟨330, 374, 2, 1⟩, ⟨376, 376, 1, -121⟩, ⟨377, 381, 2, 1⟩, ⟨385, 385, 1, 210⟩,
   ⟨386, 388, 2, 1⟩, ⟨390, 390, 1, 206⟩, ⟨391, 391, 1, 1⟩, ⟨393, 394, 1, 205⟩, ⟨395, 395, 1, 1⟩,
   ⟨398, 398, 1, 79⟩, ⟨399, 399, 1, 202⟩, ⟨400, 400, 1, 203⟩, ⟨401, 401, 1, 1⟩, ⟨403, 403, 1, 205⟩,
   ⟨404, 404, 1, 207⟩, ⟨406, 406, 1, 211⟩, ⟨407, 407, 1, 209⟩, ⟨408, 408, 1, 1⟩, ⟨412, 412, 1, 211⟩,
   ⟨413, 413, 1, 213⟩, ⟨415, 415, 1, 214⟩, ⟨416, 420, 2, 1⟩, ⟨422, 422, 1, 218⟩, ⟨423, 423, 1, 1⟩,
   ⟨425, 425, 1, 218⟩, ⟨428, 428, 1, 1⟩, ⟨430, 430, 1, 218⟩, ⟨431, 431, 1, 1⟩, ⟨433, 434, 1, 217⟩,
   ⟨435, 437, 2, 1⟩, ⟨439, 439, 1, 219⟩, ⟨440, 440, 1, 1⟩, ⟨444, 444, 1, 1⟩, ⟨452, 452, 1, 2⟩,
   ⟨453, 453, 1, 1⟩, ⟨455, 455, 1, 2⟩, ⟨456, 456, 1, 1⟩, ⟨458, 458, 1, 2⟩, ⟨459, 475, 2, 1⟩,
   ⟨478, 494, 2, 1⟩, ⟨497, 497, 1, 2⟩, ⟨498, 500, 2, 1⟩, ⟨502, 502, 1, -97⟩, ⟨503, 503, 1, -56⟩,
   ⟨504, 542, 2, 1⟩, ⟨544, 544, 1, -130⟩, ⟨546, 562, 2, 1⟩, ⟨570, 570, 1, 10795⟩, ⟨571, 571, 1, 1⟩,
   ⟨573, 573, 1, -163⟩, ⟨574, 574, 1, 10792⟩, ⟨577, 577, 1, 1⟩, ⟨579, 579, 1, -195⟩,
   ⟨580, 580, 1, 69⟩, ⟨581, 581, 1, 71⟩, ⟨582, 590, 2, 1⟩, ⟨880, 882, 2, 1⟩, ⟨886, 886, 1, 1⟩,
   ⟨895, 895, 1, 116⟩, ⟨902, 902, 1, 38⟩, ⟨904, 906, 1, 37⟩, ⟨908, 908, 1, 64⟩, ⟨910, 911, 1, 63⟩,
   ⟨913, 929, 1, 32⟩, ⟨931, 939, 1, 32⟩, ⟨975, 975, 1, 8⟩, ⟨984, 1006, 2, 1⟩, ⟨1012, 1012, 1, -60⟩,
   ⟨1015, 1015, 1, 1⟩, ⟨1017, 1017, 1, -7⟩, ⟨1018, 1018, 1, 1⟩, ⟨1021, 1023, 1, -130⟩,
   ⟨1024, 1039, 1, 80⟩, ⟨1040, 1071, 1, 32⟩, ⟨1120, 1152, 2, 1⟩, ⟨1162, 1214, 2, 1⟩,
   ⟨1216, 1216, 1, 15⟩, ⟨1217, 1229, 2, 1⟩, ⟨1232, 1326, 2, 1⟩, ⟨1329, 1366, 1, 48⟩,
   ⟨4256, 4293, 1, 7264⟩, ⟨4295, 4295, 1, 7264⟩, ⟨4301, 4301, 1, 7264⟩, ⟨5024, 5103, 1, 38864⟩,
   ⟨5104, 5109, 1, 8⟩, ⟨7312, 7354, 1, -3008⟩, ⟨7357, 7359, 1, -3008⟩, ⟨7680, 7828, 2, 1⟩,
   ⟨7838, 7838, 1, -7615⟩, ⟨7840, 7934, 2, 1⟩, ⟨7944, 7951, 1, -8⟩, ⟨7960, 7965, 1, -8⟩,
   ⟨7976, 7983, 1, -8⟩, ⟨7992, 7999, 1, -8⟩, ⟨8008, 8013, 1, -8⟩, ⟨8025, 8031, 2, -8⟩,
   ⟨8040, 8047, 1, -8⟩, ⟨8072, 8079, 1, -8⟩, ⟨8088, 8095, 1, -8⟩, ⟨8104, 8111, 1, -8⟩,
   ⟨8120, 8121, 1, -8⟩, ⟨8122, 8123, 1, -74⟩, ⟨8124, 8124, 1, -9⟩, ⟨8136, 8139, 1, -86⟩,
   ⟨8140, 8140, 1, -9⟩, ⟨8152, 8153, 1, -8⟩, ⟨8154, 8155, 1, -100⟩, ⟨8168, 8169, 1, -8⟩,
   ⟨8170, 8171, 1, -112⟩, ⟨8172, 8172, 1, -7⟩, ⟨8184, 8185, 1, -128⟩, ⟨8186, 8187, 1, -126⟩,
   ⟨8188, 8188, 1, -9⟩, ⟨8486, 8486, 1, -7517⟩, ⟨8490, 8490, 1, -8383⟩, ⟨8491, 8491, 1, -8262⟩,
   ⟨8498, 8498, 1, 28⟩, ⟨8544, 8559, 1, 16⟩, ⟨8579, 8579, 1, 1⟩, ⟨9398, 9423, 1, 26⟩,
   ⟨11264, 11311, 1, 48⟩, ⟨11360, 11360, 1, 1⟩, ⟨11362, 11362, 1, -10743⟩, ⟨11363, 11363, 1, -3814⟩,
   ⟨11364, 11364, 1, -10727⟩, ⟨11367, 11371, 2, 1⟩, ⟨11373, 11373, 1, -10780⟩,
   ⟨11374, 11374, 1, -10749⟩, ⟨11375, 11375, 1, -10783⟩, ⟨11376, 11376, 1, -10782⟩,
   ⟨11378, 11378, 1, 1⟩, ⟨11381, 11381, 1, 1⟩, ⟨11390, 11391, 1, -10815⟩, ⟨11392, 11490, 2, 1⟩,
   ⟨11499, 11501, 2, 1⟩, ⟨11506, 11506, 1, 1⟩, ⟨42560, 42604, 2, 1⟩, ⟨42624, 42650, 2, 1⟩,
   ⟨42786, 42798, 2, 1⟩, ⟨42802, 42862, 2, 1⟩, ⟨42873, 42875, 2, 1⟩, ⟨42877, 42877, 1, -35332⟩,
   ⟨42878, 42886, 2, 1⟩, ⟨42891, 42891, 1, 1⟩, ⟨42893, 42893, 1, -42280⟩, ⟨42896, 42898, 2, 1⟩,
   ⟨42902, 42920, 2, 1⟩, ⟨42922, 42922, 1, -42308⟩, ⟨42923, 42923, 1, -42319⟩,
   ⟨42924, 42924, 1, -42315⟩, ⟨42925, 42925, 1, -42305⟩, ⟨42926, 42926, 1, -42308⟩,
   ⟨42928, 42928, 1, -42258⟩, ⟨42929, 42929, 1, -42282⟩, ⟨42930, 42930, 1, -42261⟩,
   ⟨42931, 42931, 1, 928⟩, ⟨42932, 42946, 2, 1⟩, ⟨42948, 42948, 1, -48⟩, ⟨42949, 42949, 1, -42307⟩,
   ⟨42950, 42950, 1, -35384⟩, ⟨42951, 42953, 2, 1⟩, ⟨42960, 42960, 1, 1⟩, ⟨42966, 42968, 2, 1⟩,
   ⟨42997, 42997, 1, 1⟩, ⟨65313, 65338, 1, 32⟩, ⟨66560, 66599, 1, 40⟩, ⟨66736, 66771, 1, 40⟩,
   ⟨66928, 66938, 1, 39⟩, ⟨66940, 66954, 1, 39⟩, ⟨66956, 66962, 1, 39⟩, ⟨66964, 66965, 1, 39⟩,
   ⟨68736, 68786, 1, 64⟩, ⟨71840, 71871, 1, 32⟩, ⟨93760, 93791, 1, 32⟩, ⟨125184, 125217, 1, 34⟩]

/-- `unicode.ToLower`. -/
def toLowerRune (c : Char) : Char :=
  if c.toNat < 128 then c.toLower
  else
    match lowerRanges.find? fun r ↦
        r.first ≤ c.toNat && c.toNat ≤ r.last && (c.toNat - r.first) % r.stride == 0 with
    | some r => Char.ofNat (c.toNat + r.delta).toNat
    | none => c

/-- `strings.ToLower`. -/
def toLower (s : String) : String :=
  String.ofList (s.toList.map toLowerRune)

/-- The representative of a character's case orbit, for the orbits that hold an ASCII letter:
the Kelvin sign folds with `k` and the long s with `s`. -/
def foldRune (c : Char) : Char :=
  if c.toNat < 128 then c.toLower
  else if c.toNat = 0x212A then 'k'
  else if c.toNat = 0x17F then 's'
  else c

/-- `strings.EqualFold(s, t)` for an ASCII `t`. -/
def equalFold (s t : String) : Bool :=
  s.toList.map foldRune == t.toList.map foldRune

section Fold

-- `unicode.SimpleFold`: the next character of the case orbit, which wraps around to its smallest one
variable (simpleFold : Char → Char)

/-- The inner loop of `strings.EqualFold`. No orbit has more than four characters. -/
def walkOrbit (start target : Char) : Nat → Char → Char
  | 0, r => r
  | n + 1, r => if r ≠ start ∧ r < target then walkOrbit start target n (simpleFold r) else r

/-- Whether the smaller one of two different characters folds with the other one. -/
def foldsWith (small large : Char) : Bool :=
  if large.toNat < 128 then 'A' ≤ small && small ≤ 'Z' && large.toNat == small.toNat + 32
  else walkOrbit simpleFold small large 4 (simpleFold small) == large

def equalFoldRune (a b : Char) : Bool :=
  a == b || (if b < a then foldsWith simpleFold b a else foldsWith simpleFold a b)

def equalFoldRunes : List Char → List Char → Bool
  | [], [] => true
  | a :: as, b :: bs => equalFoldRune simpleFold a b && equalFoldRunes as bs
  | _, _ => false

/-- `strings.EqualFold`. -/
def equalFoldWith (s t : String) : Bool :=
  equalFoldRunes simpleFold s.toList t.toList

theorem equalFoldWith_self (s : String) : equalFoldWith simpleFold s s = true := by
  unfold equalFoldWith
  induction s.toList with
  | nil => rfl
  | cons _ _ ih => simp [equalFoldRunes, equalFoldRune, ih]

end Fold

/-! ## White space -/

/-- `unicode.IsSpace`. -/
def isSpace (c : Char) : Bool :=
  let n := c.toNat
  (9 ≤ n && n ≤ 13) || n == 0x20 || n == 0x85 || n == 0xA0 || n == 0x1680 ||
    (0x2000 ≤ n && n ≤ 0x200A) || n == 0x2028 || n == 0x2029 || n == 0x202F || n == 0x205F ||
    n == 0x3000

/-- `strings.TrimSpace`. -/
def trimSpace (s : String) : String :=
  String.ofList (((s.toList.dropWhile isSpace).reverse.dropWhile isSpace).reverse)

/-- The first value that is not blank, as `firstNonEmpty` of the provider and store packages. -/
def firstNonBlank : List String → String
  | [] => ""
  | value :: rest => if trimSpace value ≠ "" then value else firstNonBlank rest

/-! ## Searching and cutting -/

/-- `strings.HasPrefix`. -/
def hasPrefix (s p : String) : Bool :=
  p.toList.isPrefixOf s.toList

/-- `strings.CutPrefix`. -/
def cutPrefix (s p : String) : Option String :=
  if hasPrefix s p then some (String.ofList (s.toList.drop p.length)) else none

/-- `strings.TrimPrefix`. -/
def trimPrefix (s p : String) : String :=
  (cutPrefix s p).getD s

/-- `strings.Contains`. -/
def contains (s sub : String) : Bool :=
  (breakAt sub.toList s.toList).isSome

/-- `strings.Cut` at a one-character separator. -/
def cut (s : String) (sep : Char) : Option (String × String) :=
  (breakAt [sep] s.toList).map fun (before, tail) ↦
    (String.ofList before, String.ofList (tail.drop 1))

/-- `strings.Split` at a one-character separator. -/
def split (s : String) (sep : Char) : List String :=
  (s.toList.splitOn sep).map String.ofList

/-- `strings.ReplaceAll` for a non-empty `old`. -/
def replaceAll (s old new : String) : String :=
  String.ofList (replaceFrom old.toList new.toList 0 s.toList)

end Webhookery.Go
