import Webhookery.Go.Time
import Mathlib.Data.List.DropRight

/-!
# Dates and their format

The date and the clock of a time in UTC as `time.Time` computes them, and the layout `RFC3339Nano`: the
fraction of a second without trailing zeros, and no fraction when there is none. Two times with the same
text are the same time.
-/

namespace Webhookery.Go

/-! ## Dates -/

/-- Days from the start of year 1 to the Unix epoch. -/
def epochDays : Int := 719162

/-- The year of a day that is counted from the start of year 1, and the day within the year. Cycles of 400
years, of 100 years, of 4 years and single years are cut off in turn; the last cycle of a kind may be longer
by a day. -/
def yearAndDay (d : Int) : Int × Int :=
  let n := d / 146097
  let y := 400 * n
  let d := d - 146097 * n
  let n := d / 36524
  let n := n - n / 4
  let y := y + 100 * n
  let d := d - 36524 * n
  let n := d / 1461
  let y := y + 4 * n
  let d := d - 1461 * n
  let n := d / 365
  let n := n - n / 4
  (y + n + 1, d - 365 * n)

def isLeapYear (year : Int) : Bool := year % 4 == 0 && (year % 100 != 0 || year % 400 == 0)

/-- Days of a common year before each month. -/
def daysBefore : List Nat := [0, 31, 59, 90, 120, 151, 181, 212, 243, 273, 304, 334, 365]

/-- The month and its day in a common year: the estimate of months of 31 days is at most one too small. -/
def commonMonthAndDay (day : Nat) : Nat × Nat :=
  let month := day / 31
  let next := daysBefore.getD (month + 1) 0
  if next ≤ day then (month + 2, day - next + 1) else (month + 1, day - daysBefore.getD month 0 + 1)

/-- The month and its day, from the day of the year. -/
def monthAndDay (leap : Bool) (yday : Nat) : Nat × Nat :=
  if leap then
    if yday = 59 then (2, 29) else commonMonthAndDay (if 59 < yday then yday - 1 else yday)
  else commonMonthAndDay yday

/-- The day of the year of a date. -/
def dayOfYear (leap : Bool) (month day : Nat) : Nat :=
  daysBefore.getD (month - 1) 0 + (if leap ∧ 2 < month then 1 else 0) + day - 1

theorem dayOfYear_monthAndDay (leap : Bool) {yday : Nat} (h : yday < 366) :
    dayOfYear leap (monthAndDay leap yday).1 (monthAndDay leap yday).2 = yday := by
  have hall : ∀ leap, ∀ yday < 366,
      dayOfYear leap (monthAndDay leap yday).1 (monthAndDay leap yday).2 = yday := by decide +kernel
  exact hall leap yday h

theorem monthAndDay_lt (leap : Bool) {yday : Nat} (h : yday < 366) :
    (monthAndDay leap yday).1 < 100 ∧ (monthAndDay leap yday).2 < 100 := by
  have hall : ∀ leap, ∀ yday < 366,
      (monthAndDay leap yday).1 < 100 ∧ (monthAndDay leap yday).2 < 100 := by decide +kernel
  exact hall leap yday h

/-- The day that begins a year, counted from the start of year 1. -/
def yearStart (year : Int) : Int :=
  let y := year - 1
  146097 * (y / 400) + 36524 * (y % 400 / 100) + 1461 * (y % 100 / 4) + 365 * (y % 4)

theorem yearAndDay_spec (d : Int) :
    0 ≤ (yearAndDay d).2 ∧ (yearAndDay d).2 < 366 ∧ yearStart (yearAndDay d).1 + (yearAndDay d).2 = d := by
  simp only [yearAndDay, yearStart]
  generalize ha : d / 146097 = a
  generalize hd₁ : d - 146097 * a = d₁
  generalize hb' : d₁ / 36524 = b'
  generalize hb : b' - b' / 4 = b
  generalize hd₂ : d₁ - 36524 * b = d₂
  generalize hc : d₂ / 1461 = c
  generalize hd₃ : d₂ - 1461 * c = d₃
  generalize he' : d₃ / 365 = e'
  generalize he : e' - e' / 4 = e
  have hd₁ : 0 ≤ d₁ ∧ d₁ < 146097 := by omega
  have hb : 0 ≤ b ∧ b ≤ 3 := by omega
  have hd₂ : 0 ≤ d₂ ∧ d₂ < 36525 := by omega
  have hc : 0 ≤ c ∧ c ≤ 24 := by omega
  have hd₃ : 0 ≤ d₃ ∧ d₃ < 1461 := by omega
  have he : 0 ≤ e ∧ e ≤ 3 := by omega
  have hy : 400 * a + 100 * b + 4 * c + e + 1 - 1 = 400 * a + 100 * b + 4 * c + e := by omega
  have h400 : (400 * a + 100 * b + 4 * c + e) / 400 = a := by omega
  have h100 : (400 * a + 100 * b + 4 * c + e) % 400 / 100 = b := by omega
  have hrest : (400 * a + 100 * b + 4 * c + e) % 100 = 4 * c + e := by omega
  have h4 : (4 * c + e) / 4 = c := by omega
  have h1 : (400 * a + 100 * b + 4 * c + e) % 4 = e := by omega
  rw [hy, h400, h100, hrest, h4, h1]
  omega

/-! ## The layout -/

/-- The decimal digits of a number, with zeros before them up to a width. -/
def digitsOf (width n : Nat) : List Char := (Nat.toDigits 10 n).leftpad width '0'

theorem value_digitsOf (width n : Nat) : Nat.ofDigitChars 10 (digitsOf width n) 0 = n := by
  rw [digitsOf, List.leftpad, Nat.ofDigitChars_append, Nat.ofDigitChars_replicate_zero]
  exact Nat.ofDigitChars_ten_toDigits

theorem digitsOf_inj {width m n : Nat} (h : digitsOf width m = digitsOf width n) : m = n := by
  calc
    m = Nat.ofDigitChars 10 (digitsOf width m) 0 := (value_digitsOf width m).symm
    _ = Nat.ofDigitChars 10 (digitsOf width n) 0 := by rw [h]
    _ = n := value_digitsOf width n

variable {c : Char}

theorem isDigit_of_mem_digitsOf {width n : Nat} (hc : c ∈ digitsOf width n) : c.isDigit := by
  rcases List.mem_append.mp hc with hc | hc
  · rw [List.eq_of_mem_replicate hc]
    rfl
  · exact Nat.isDigit_of_mem_toDigits (by decide) (by decide) hc

theorem length_digitsOf {width n : Nat} (hwidth : 0 < width) (h : n < 10 ^ width) :
    (digitsOf width n).length = width := by
  rw [digitsOf, List.length_leftpad]
  exact max_eq_left ((Nat.length_toDigits_le_iff (by decide) hwidth).mpr h)

/-- The sign and the digits of a number. -/
def appendInt (width : Nat) (n : Int) : List Char :=
  (if n < 0 then ['-'] else []) ++ digitsOf width n.natAbs

theorem mem_appendInt {width : Nat} {n : Int} (hc : c ∈ appendInt width n) : c = '-' ∨ c.isDigit := by
  rcases List.mem_append.mp hc with hc | hc
  · split at hc
    · exact .inl (List.mem_singleton.mp hc)
    · cases hc
  · exact .inr (isDigit_of_mem_digitsOf hc)

theorem appendInt_inj {width : Nat} {m n : Int} (h : appendInt width m = appendInt width n) : m = n := by
  have hminus {k l : Nat} {rest : List Char} (h : '-' :: rest = digitsOf k l) : False := by
    have hmem : '-' ∈ digitsOf k l := h ▸ List.mem_cons_self
    exact absurd (isDigit_of_mem_digitsOf hmem) (by decide)
  unfold appendInt at h
  split at h <;> split at h
  · have habs := digitsOf_inj (List.append_cancel_left h)
    omega
  · exact (hminus h).elim
  · exact (hminus h.symm).elim
  · have habs := digitsOf_inj h
    omega

/-- The fraction of a second, without trailing zeros and absent when it is zero. -/
def appendNano (nanosec : Nat) : List Char :=
  if nanosec = 0 then [] else '.' :: (digitsOf 9 nanosec).rdropWhile (· == '0')

theorem exists_rdropWhile_append {α : Type} [DecidableEq α] (a : α) (l : List α) :
    ∃ n, l = l.rdropWhile (· == a) ++ List.replicate n a := by
  induction l using List.reverseRecOn with
  | nil => exact ⟨0, rfl⟩
  | append_singleton l x ih =>
    rw [List.rdropWhile_concat]
    split
    case isTrue hx =>
      obtain ⟨n, hn⟩ := ih
      refine ⟨n + 1, ?_⟩
      rw [List.replicate_succ', ← List.append_assoc, ← hn, beq_iff_eq.mp hx]
    case isFalse => exact ⟨0, (List.append_nil _).symm⟩

/-- Lists of one length are determined by what is left of them without their last zeros. -/
theorem eq_of_rdropWhile_eq {α : Type} [DecidableEq α] {a : α} {l m : List α} (hlength : l.length = m.length)
    (h : l.rdropWhile (· == a) = m.rdropWhile (· == a)) : l = m := by
  obtain ⟨i, hi⟩ := exists_rdropWhile_append a l
  obtain ⟨j, hj⟩ := exists_rdropWhile_append a m
  rw [h] at hi
  generalize m.rdropWhile (· == a) = kept at hi hj
  have hcount : i = j := by
    simpa [hi, hj] using hlength
  rw [hi, hj, hcount]

theorem appendNano_inj {m n : Nat} (hm : m < 1000000000) (hn : n < 1000000000)
    (h : appendNano m = appendNano n) : m = n := by
  unfold appendNano at h
  split at h <;> split at h
  · omega
  · cases h
  · cases h
  · have hlength : (digitsOf 9 m).length = (digitsOf 9 n).length := by
      rw [length_digitsOf (by decide) hm, length_digitsOf (by decide) hn]
    exact digitsOf_inj (eq_of_rdropWhile_eq hlength (List.cons.inj h).2)

theorem mem_appendNano {n : Nat} (hc : c ∈ appendNano n) : c = '.' ∨ c.isDigit := by
  unfold appendNano at hc
  split at hc
  · cases hc
  · rcases List.mem_cons.mp hc with hc | hc
    · exact .inl hc
    · exact .inr (isDigit_of_mem_digitsOf ((List.rdropWhile_prefix _ _).subset hc))

/-- The date, from the days since the Unix epoch. -/
def dateChars (days : Int) : List Char :=
  let (year, yday) := yearAndDay (days + epochDays)
  let (month, day) := monthAndDay (isLeapYear year) yday.toNat
  appendInt 4 year ++ '-' :: digitsOf 2 month ++ '-' :: digitsOf 2 day

/-- The clock, from the second of the day. -/
def clockChars (sec : Nat) : List Char :=
  digitsOf 2 (sec / 3600) ++ ':' :: digitsOf 2 (sec % 3600 / 60) ++ ':' :: digitsOf 2 (sec % 60)

/-- A field of two digits after a separator is cut off at its length. -/
theorem cancel_field {xs ys : List Char} {m n : Nat} (hm : m < 100) (hn : n < 100)
    (h : xs ++ c :: digitsOf 2 m = ys ++ c :: digitsOf 2 n) : xs = ys ∧ m = n := by
  have hlength : (c :: digitsOf 2 m).length = (c :: digitsOf 2 n).length := by
    rw [List.length_cons, List.length_cons, length_digitsOf (by decide) hm, length_digitsOf (by decide) hn]
  obtain ⟨hxs, hfield⟩ := List.append_inj' h hlength
  exact ⟨hxs, digitsOf_inj (List.cons.inj hfield).2⟩

theorem dateChars_inj {d e : Int} (h : dateChars d = dateChars e) : d = e := by
  obtain ⟨hd, hd', hdate⟩ := yearAndDay_spec (d + epochDays)
  obtain ⟨he, he', hedate⟩ := yearAndDay_spec (e + epochDays)
  unfold dateChars at h
  generalize yearAndDay (d + epochDays) = p at hd hd' hdate h
  generalize yearAndDay (e + epochDays) = q at he he' hedate h
  obtain ⟨year, yday⟩ := p
  obtain ⟨year', yday'⟩ := q
  simp only at hd hd' hdate he he' hedate h
  have hlt : yday.toNat < 366 := by omega
  have hlt' : yday'.toNat < 366 := by omega
  obtain ⟨hmonth, hday⟩ := monthAndDay_lt (isLeapYear year) hlt
  obtain ⟨hmonth', hday'⟩ := monthAndDay_lt (isLeapYear year') hlt'
  obtain ⟨h, hdays⟩ := cancel_field hday hday' h
  obtain ⟨h, hmonths⟩ := cancel_field hmonth hmonth' h
  obtain rfl := appendInt_inj h
  have hyday : yday.toNat = yday'.toNat := by
    rw [← dayOfYear_monthAndDay (isLeapYear year) hlt, ← dayOfYear_monthAndDay (isLeapYear year) hlt',
      hmonths, hdays]
  omega

theorem clockChars_inj {m n : Nat} (hm : m < 86400) (hn : n < 86400) (h : clockChars m = clockChars n) : m = n := by
  obtain ⟨h, _⟩ := cancel_field (by omega) (by omega) h
  obtain ⟨h, _⟩ := cancel_field (by omega) (by omega) h
  have hhour := digitsOf_inj h
  omega

theorem length_clockChars {n : Nat} (hn : n < 86400) : (clockChars n).length = 8 := by
  have hlength {k : Nat} (hk : k < 100) : (digitsOf 2 k).length = 2 := length_digitsOf (by decide) hk
  simp only [clockChars, List.length_append, List.length_cons]
  rw [hlength (by omega), hlength (by omega), hlength (by omega)]

theorem not_mem_digitsOf (hc : c.isDigit = false) (width n : Nat) : c ∉ digitsOf width n := by
  intro hmem
  rw [isDigit_of_mem_digitsOf hmem] at hc
  exact Bool.noConfusion hc

theorem not_mem_dateChars (d : Int) : 'T' ∉ dateChars d := by
  have hyear (n : Int) : 'T' ∉ appendInt 4 n := fun hc ↦ absurd (mem_appendInt hc) (by decide)
  simp [dateChars, hyear, not_mem_digitsOf]

theorem not_mem_clockChars (n : Nat) : 'T' ∉ clockChars n := by
  simp [clockChars, not_mem_digitsOf]

theorem not_mem_appendNano (n : Nat) : 'T' ∉ appendNano n :=
  fun hc ↦ absurd (mem_appendNano hc) (by decide)

/-- A time in the layout, from its Unix seconds and the nanoseconds within the second. -/
def rfc3339Chars (sec : Int) (nanosec : Nat) : List Char :=
  dateChars (sec / 86400) ++ 'T' :: (clockChars (sec % 86400).toNat ++ appendNano nanosec) ++ ['Z']

/-- The date ends at the `T`, the clock has a fixed length, and what is left is the fraction. -/
theorem rfc3339Chars_inj {sec sec' : Int} {nanosec nanosec' : Nat} (hnano : nanosec < 1000000000)
    (hnano' : nanosec' < 1000000000) (h : rfc3339Chars sec nanosec = rfc3339Chars sec' nanosec') :
    sec = sec' ∧ nanosec = nanosec' := by
  have hrest (k n : Nat) : 'T' ∉ clockChars k ++ appendNano n := fun hmem ↦
    (List.mem_append.mp hmem).elim (not_mem_clockChars k) (not_mem_appendNano n)
  have hlt : (sec % 86400).toNat < 86400 := by omega
  have hlt' : (sec' % 86400).toNat < 86400 := by omega
  obtain ⟨hdate, -, htail⟩ := (List.append_cons_inj_of_notMem (not_mem_dateChars _) (hrest _ _)).mp
    (List.append_cancel_right h)
  obtain ⟨hclock, hfraction⟩ := List.append_inj htail
    ((length_clockChars hlt).trans (length_clockChars hlt').symm)
  have hdays := dateChars_inj hdate
  have hsec := clockChars_inj hlt hlt' hclock
  exact ⟨by omega, appendNano_inj hnano hnano' hfraction⟩

/-- `t.UTC().Format(time.RFC3339Nano)`. -/
def formatRFC3339Nano (t : Time) : String :=
  String.ofList (rfc3339Chars t.toUnix (t % second).toNat)

theorem formatRFC3339Nano_injective : Function.Injective formatRFC3339Nano := by
  intro t u h
  have hlt (n : Int) : (n % 1000000000).toNat < 1000000000 := by omega
  obtain ⟨hsec, hnano⟩ := rfc3339Chars_inj (hlt t) (hlt u) (String.ofList_inj.mp h)
  have hparts (m n : Int) (hsec : m / 1000000000 = n / 1000000000)
      (hnano : (m % 1000000000).toNat = (n % 1000000000).toNat) : m = n := by omega
  exact hparts t u hsec hnano

example : formatRFC3339Nano 1709210096120000000 = "2024-02-29T12:34:56.12Z" := by decide +kernel

end Webhookery.Go
