import Webhookery.Go.Strings
import Mathlib.Algebra.Ring.Nat

/-!
# Machine integers and time

`strconv.ParseInt`, `int64` wrap-around, and the part of Go's `time` package that signature
windows depend on. A time is a number of nanoseconds since the Unix epoch. `Sub` saturates at the
range of a duration, and negating the least duration gives it back, as in Go.
-/

namespace Webhookery.Go

/-! ## Integers -/

def minInt64 : Int := -9223372036854775808

def maxInt64 : Int := 9223372036854775807

/-- The `int64` congruent to `n` modulo `2 ^ 64`. -/
def wrapInt64 (n : Int) : Int :=
  (n + 9223372036854775808) % 18446744073709551616 - 9223372036854775808

/-- `int64` negation. -/
def negInt64 (n : Int) : Int := wrapInt64 (-n)

def isDigit (c : Char) : Bool := '0' ≤ c && c ≤ '9'

/-- The decimal value of digits. -/
def decimalValue (cs : List Char) : Nat :=
  cs.foldl (fun acc c ↦ acc * 10 + (c.toNat - 48)) 0

/-- A non-empty list of digits as a number. -/
def parseDigits (cs : List Char) : Option Nat :=
  if cs.isEmpty || !cs.all isDigit then none else some (decimalValue cs)

/-- `strconv.ParseInt(s, 10, 64)`. -/
def parseInt (s : String) : Option Int := do
  let value ← match s.toList with
    | '-' :: rest => (parseDigits rest).map fun n ↦ -(n : Int)
    | '+' :: rest => (parseDigits rest).map Int.ofNat
    | rest => (parseDigits rest).map Int.ofNat
  if minInt64 ≤ value ∧ value ≤ maxInt64 then some value else none

/-- `%d`. -/
def formatInt (n : Int) : String := toString n

/-! ## Times and durations -/

abbrev Time := Int

abbrev Duration := Int

def second : Duration := 1000000000

def minute : Duration := 60 * second

namespace Time

/-- Seconds from the start of year 1, where Go's zero time is, to the Unix epoch. -/
def unixToInternal : Int := 62135596800

/-- The zero `time.Time`. -/
def zero : Time := -unixToInternal * second

/-- `time.Unix(sec, 0)`; the seconds since year 1 are an `int64` that wraps around. -/
def unix (sec : Int) : Time :=
  (wrapInt64 (sec + unixToInternal) - unixToInternal) * second

/-- `t.Unix()`. -/
def toUnix (t : Time) : Int := t / second

/-- `t.Sub(u)`: the difference, held within the range of a duration. -/
def sub (t u : Time) : Duration := max minInt64 (min maxInt64 (t - u))

/-- The age that the verifiers compare with their window: `now.Sub(ts)`, negated when negative. -/
def age (now ts : Time) : Duration :=
  if now.sub ts < 0 then negInt64 (now.sub ts) else now.sub ts

end Time

/-! ## RFC 3339 -/

def isLeap (year : Nat) : Bool :=
  year % 4 == 0 && (year % 100 != 0 || year % 400 == 0)

def daysIn (month year : Nat) : Nat :=
  if month = 2 then (if isLeap year then 29 else 28)
  else if month ∈ [4, 6, 9, 11] then 30
  else 31

/-- Days from 1970-01-01 to a date of the proleptic Gregorian calendar. -/
def daysFromEpoch (year month day : Nat) : Int :=
  let leaps : Nat → Nat := fun y ↦ (y + 3) / 4 - (y + 99) / 100 + (y + 399) / 400
  let before := ((List.range (month - 1)).map fun m ↦ daysIn (m + 1) year).sum
  (year * 365 + leaps year + before + day : Nat) - 719529

/-- A number of exactly `width` digits and the rest. -/
def takeDigits (width : Nat) (cs : List Char) : Option (Nat × List Char) :=
  let front := cs.take width
  if front.length = width ∧ front.all isDigit then some (decimalValue front, cs.drop width) else none

/-- One expected character. -/
def expectChar (c : Char) : List Char → Option (List Char)
  | d :: rest => if d = c then some rest else none
  | [] => none

/-- A fraction of a second is accepted although the layout has none; digits after the ninth are
dropped. -/
def takeFraction (cs : List Char) : Nat × List Char :=
  match cs with
  | sep :: d :: rest =>
    if (sep = '.' ∨ sep = ',') ∧ isDigit d then
      let digits := (d :: rest).takeWhile isDigit
      let kept := digits.take 9
      (decimalValue kept * 10 ^ (9 - kept.length), (d :: rest).dropWhile isDigit)
    else (0, cs)
  | _ => (0, cs)

/-- `Z` or `±hh:mm`, in seconds east of UTC. -/
def parseZone (cs : List Char) : Option Int :=
  match cs with
  | ['Z'] => some 0
  | sign :: rest => do
    let (hour, rest) ← takeDigits 2 rest
    let rest ← expectChar ':' rest
    let (min, rest) ← takeDigits 2 rest
    if rest ≠ [] ∨ hour > 24 ∨ min > 60 then none
    else if sign = '+' then some ((hour * 60 + min) * 60 : Nat)
    else if sign = '-' then some (-((hour * 60 + min) * 60 : Nat))
    else none
  | [] => none

/-- `time.Parse(time.RFC3339, s)`. The hour may have one digit, as in Go's parser. -/
def parseRFC3339 (s : String) : Option Time := do
  let (year, cs) ← takeDigits 4 s.toList
  let cs ← expectChar '-' cs
  let (month, cs) ← takeDigits 2 cs
  let cs ← expectChar '-' cs
  let (day, cs) ← takeDigits 2 cs
  let cs ← expectChar 'T' cs
  let (hour, cs) ← (takeDigits 2 cs).orElse fun _ ↦ takeDigits 1 cs
  let cs ← expectChar ':' cs
  let (min, cs) ← takeDigits 2 cs
  let cs ← expectChar ':' cs
  let (sec, cs) ← takeDigits 2 cs
  let (nsec, cs) := takeFraction cs
  let offset ← parseZone cs
  if month < 1 ∨ month > 12 ∨ day < 1 ∨ day > daysIn month year ∨ hour ≥ 24 ∨ min ≥ 60 ∨ sec ≥ 60
  then none
  else
    let secs := daysFromEpoch year month day * 86400 + ((hour * 60 + min) * 60 + sec : Nat) - offset
    some (secs * second + nsec)

end Webhookery.Go
