import Webhookery.Go.Time

/-!
# Double-precision numbers

JSON numbers become `float64` when Go decodes them into an interface value. A finite double is a
sign and `mant * 2 ^ exp`; reading a decimal rounds to nearest, ties to even, and the formats are
those of `strconv.FormatFloat` that `encoding/json` and `fmt` use.
-/

namespace Webhookery.Go

/-- A finite `float64`. -/
structure Float64 where
  neg : Bool
  mant : Nat
  exp : Int
  deriving DecidableEq, Repr

namespace Float64

/-- The zero of a sign. -/
def signedZero (neg : Bool) : Float64 := ⟨neg, 0, 0⟩

/-- A ratio rounded to an integer, ties to even. -/
def roundRatio (num den : Nat) : Nat :=
  let q := num / den
  let r := num % den
  if 2 * r > den ∨ (2 * r = den ∧ q % 2 = 1) then q + 1 else q

/-- `num / den / 2 ^ e` as a ratio. -/
def scaleRatio (num den : Nat) (e : Int) : Nat × Nat :=
  if 0 ≤ e then (num, den * 2 ^ e.toNat) else (num * 2 ^ (-e).toNat, den)

/-- The double nearest to a positive ratio, or none when it is too large. -/
def ofRatio (neg : Bool) (num den : Nat) : Option Float64 :=
  let guess : Int := (Nat.log2 num : Int) - Nat.log2 den - 52
  -- the quotient at the guessed exponent has 53 bits, or one bit fewer
  let scaled := scaleRatio num den guess
  let e := max (-1074) (if scaled.1 / scaled.2 < 2 ^ 52 then guess - 1 else guess)
  let (p, q) := scaleRatio num den e
  let m := roundRatio p q
  let (m, e) := if m = 2 ^ 53 then (2 ^ 52, e + 1) else (m, e)
  if m = 0 then some (signedZero neg)
  else if e > 971 then none
  else some ⟨neg, m, e⟩

/-- `strconv.ParseFloat` of `digits * 10 ^ exp10`. Magnitudes far outside the range are settled by
counting digits. -/
def ofDecimal (neg : Bool) (digits : Nat) (exp10 : Int) : Option Float64 :=
  let magnitude : Int := (Nat.toDigits 10 digits).length + exp10
  if digits = 0 ∨ magnitude < -330 then some (signedZero neg)
  else if magnitude > 310 then none
  else if 0 ≤ exp10 then ofRatio neg (digits * 10 ^ exp10.toNat) 1
  else ofRatio neg digits (10 ^ (-exp10).toNat)

/-- The absolute value as a ratio. -/
def toRatio (f : Float64) : Nat × Nat :=
  if 0 ≤ f.exp then (f.mant * 2 ^ f.exp.toNat, 1) else (f.mant, 2 ^ (-f.exp).toNat)

/-- `int64(f)`: truncated towards zero; out of range it is the least `int64`, as on amd64. -/
def toInt64 (f : Float64) : Int :=
  let (p, q) := f.toRatio
  let magnitude : Int := (p / q : Nat)
  let value := if f.neg then -magnitude else magnitude
  if minInt64 ≤ value ∧ value ≤ maxInt64 then value else minInt64

/-! ## Shortest decimal digits -/

/-- The number of decimal digits before the point: the least `k` with `p / q < 10 ^ k`. -/
def decimalPoint (p q : Nat) : Int :=
  if q ≤ p then (Nat.toDigits 10 (p / q)).length
  else 1 - (Nat.toDigits 10 ((q - 1) / p)).length

/-- The digits of `p / q` cut to `n` significant ones, and the remainder as a ratio. -/
def cutDigits (p q : Nat) (point : Int) (n : Nat) : Nat × Nat × Nat :=
  let shift := (n : Int) - point
  let (p, q) := if 0 ≤ shift then (p * 10 ^ shift.toNat, q) else (p, q * 10 ^ (-shift).toNat)
  (p / q, p % q, q)

/-- The `n`-digit decimal that reads back as `f`, when there is one: rounded to nearest when both
neighbours do. -/
def digitsOfLength (f : Float64) (n : Nat) : Option (Nat × Int) :=
  let (p, q) := f.toRatio
  let point := decimalPoint p q
  let (down, rem, den) := cutDigits p q point n
  let exp10 := point - n
  let okDown := ofDecimal f.neg down exp10 = some f
  let okUp := ofDecimal f.neg (down + 1) exp10 = some f
  if okDown ∧ (rem = 0 ∨ ¬okUp ∨ 2 * rem < den ∨ (2 * rem = den ∧ down % 2 = 0)) then
    some (down, exp10)
  else if okUp then some (down + 1, exp10)
  else none

/-- The shortest digits that read back as `f` and the position of the decimal point. -/
def shortest (f : Float64) : List Char × Int :=
  if f.mant = 0 then (['0'], 1)
  else
    match (List.range 17).findSome? fun k ↦ f.digitsOfLength (k + 1) with
    | some (digits, exp10) =>
      let cs := Nat.toDigits 10 digits
      let kept := (cs.reverse.dropWhile (· == '0')).reverse
      (kept, cs.length + exp10)
    | none => (['0'], 1)

/-! ## Formats -/

def signChars (f : Float64) : List Char := if f.neg then ['-'] else []

/-- Format `'f'` with the shortest digits. -/
def fixedChars (digits : List Char) (point : Int) : List Char :=
  if point ≤ 0 then '0' :: '.' :: List.replicate (-point).toNat '0' ++ digits
  else if digits.length ≤ point.toNat then
    digits ++ List.replicate (point.toNat - digits.length) '0'
  else digits.take point.toNat ++ '.' :: digits.drop point.toNat

/-- Format `'e'` with the shortest digits; the exponent has at least `width` digits. -/
def scientificChars (width : Nat) (digits : List Char) (point : Int) : List Char :=
  let e := point - 1
  let ds := Nat.toDigits 10 e.natAbs
  let mantissa := match digits with
    | d :: d' :: rest => d :: '.' :: d' :: rest
    | short => short
  mantissa ++ 'e' :: (if e < 0 then '-' else '+') :: List.replicate (width - ds.length) '0' ++ ds

/-- The text `encoding/json` writes. -/
def jsonChars (f : Float64) : List Char :=
  let (digits, point) := f.shortest
  f.signChars ++
    if f.mant ≠ 0 ∧ (point ≤ -6 ∨ point ≥ 22) then
      scientificChars (if point ≤ 0 then 1 else 2) digits point
    else if f.mant = 0 then ['0']
    else fixedChars digits point

/-- The text of `%v`. -/
def verbChars (f : Float64) : List Char :=
  let (digits, point) := f.shortest
  f.signChars ++
    if f.mant ≠ 0 ∧ (point - 1 < -4 ∨ point - 1 ≥ 6) then scientificChars 2 digits point
    else if f.mant = 0 then ['0']
    else fixedChars digits point

/-- The text of `%.0f`: rounded to an integer, ties to even. -/
def integerChars (f : Float64) : List Char :=
  let (p, q) := f.toRatio
  f.signChars ++ Nat.toDigits 10 (roundRatio p q)

end Float64

end Webhookery.Go
