import Mathlib

/-!
# Instants as ISO texts

An instant is a number of microseconds since 1970 in universal time. Its text
has the date of the Gregorian calendar, the time of day with six digits for the
microseconds, and the offset zero. Different instants have different texts.
-/
namespace MediaSync.IsoInstants

/-! ## Dates -/

structure Date where
  year : ℤ
  month : ℤ
  day : ℤ
  deriving DecidableEq, Repr

/-- The date of a day of a year that begins in March. -/
def ofDayOfYear (year dayOfYear : ℤ) : Date :=
  let shifted := (5 * dayOfYear + 2) / 153
  let month := if shifted < 10 then shifted + 3 else shifted - 9
  ⟨if month ≤ 2 then year + 1 else year, month, dayOfYear - (153 * shifted + 2) / 5 + 1⟩

/-- The date of a day since 1970: eras of 400 years, centuries, leap cycles of
four years and years, the last of which is longer. -/
def dateOf (days : ℤ) : Date :=
  let era := (days + 719468) / 146097
  let dayOfEra := (days + 719468) % 146097
  let century := min (dayOfEra / 36524) 3
  let dayOfCentury := dayOfEra - 36524 * century
  let cycle := dayOfCentury / 1461
  let dayOfCycle := dayOfCentury % 1461
  let rest := min (dayOfCycle / 365) 3
  ofDayOfYear (400 * era + 100 * century + 4 * cycle + rest) (dayOfCycle - 365 * rest)

def daysOf (date : Date) : ℤ :=
  let year := if date.month ≤ 2 then date.year - 1 else date.year
  let shifted := if date.month ≤ 2 then date.month + 9 else date.month - 3
  365 * year + year / 4 - year / 100 + year / 400 + (153 * shifted + 2) / 5 + date.day - 719469

theorem daysOf_ofDayOfYear (year dayOfYear : ℤ) (hlow : 0 ≤ dayOfYear) (hhigh : dayOfYear ≤ 365) :
    daysOf (ofDayOfYear year dayOfYear) =
      365 * year + year / 4 - year / 100 + year / 400 + dayOfYear - 719468 := by
  unfold daysOf ofDayOfYear
  dsimp only
  split <;> split <;> omega

/-- The days of the years before, leap days included. -/
theorem days_of_years (era century cycle rest : ℤ) (hcentury : 0 ≤ century ∧ century ≤ 3)
    (hcycle : 0 ≤ cycle ∧ cycle ≤ 24) (hrest : 0 ≤ rest ∧ rest ≤ 3) :
    let year := 400 * era + 100 * century + 4 * cycle + rest
    365 * year + year / 4 - year / 100 + year / 400 =
      146097 * era + 36524 * century + 1461 * cycle + 365 * rest := by
  intro year
  have hfour : year / 4 = 100 * era + 25 * century + cycle := by omega
  have hhundred : year / 100 = 4 * era + century := by omega
  have hera : year / 400 = era := by omega
  omega

theorem daysOf_dateOf (days : ℤ) : daysOf (dateOf days) = days := by
  unfold dateOf
  dsimp only
  rw [daysOf_ofDayOfYear _ _ (by omega) (by omega),
    days_of_years _ _ _ _ (by omega) (by omega) (by omega)]
  omega

theorem dateOf_bounds (days : ℤ) : 1 ≤ (dateOf days).month ∧ (dateOf days).month ≤ 12 ∧
    1 ≤ (dateOf days).day ∧ (dateOf days).day ≤ 31 := by
  unfold dateOf ofDayOfYear
  dsimp only
  split <;> omega

example : dateOf 19782 = ⟨2024, 2, 29⟩ := by decide

/-! ## Texts -/

/-- The format `%0wd` of a number that is not negative. -/
def padded (width n : ℕ) : List Char := (Nat.toDigits 10 n).leftpad width '0'

/-- The format `%04d` -/
def paddedYear : ℤ → List Char
  | .ofNat n => padded 4 n
  | .negSucc n => '-' :: padded 3 (n + 1)

theorem ofDigitChars_padded (width n : ℕ) : Nat.ofDigitChars 10 (padded width n) 0 = n := by
  unfold padded List.leftpad
  rw [Nat.ofDigitChars_append, Nat.ofDigitChars_replicate_zero, Nat.mul_zero,
    Nat.ofDigitChars_ten_toDigits]

theorem padded_injective (width : ℕ) : Function.Injective (padded width) := by
  intro n m h
  rw [← ofDigitChars_padded width n, h, ofDigitChars_padded]

theorem length_padded {width n : ℕ} (hwidth : 0 < width) (hn : n < 10 ^ width) :
    (padded width n).length = width := by
  unfold padded
  rw [List.length_leftpad]
  exact max_eq_left ((Nat.length_toDigits_le_iff (by decide) hwidth).mpr hn)

theorem isDigit_of_mem_padded {width n : ℕ} {c : Char} (h : c ∈ padded width n) : c.isDigit := by
  unfold padded List.leftpad at h
  rcases List.mem_append.mp h with h | h
  · rw [List.eq_of_mem_replicate h]
    decide
  · exact Nat.isDigit_of_mem_toDigits (by decide) (by decide) h

theorem paddedYear_injective : Function.Injective paddedYear := by
  have hsign {width n : ℕ} {cs : List Char} : padded width n ≠ '-' :: cs := by
    intro h
    have hdigit := isDigit_of_mem_padded (h ▸ List.mem_cons_self .. : '-' ∈ padded width n)
    exact absurd hdigit (by decide)
  rintro (y | y) (z | z) h
  · exact congrArg Int.ofNat (padded_injective 4 h)
  · exact absurd h hsign
  · exact absurd h.symm hsign
  · have hsame := padded_injective 3 (List.cons.inj h).2
    rw [Nat.succ_injective hsame]

/-- A field of fixed width, and what follows it. -/
theorem field_inj {width n m : ℕ} {rest rest' : List Char} (hwidth : 0 < width)
    (hn : n < 10 ^ width) (hm : m < 10 ^ width)
    (h : padded width n ++ rest = padded width m ++ rest') : n = m ∧ rest = rest' := by
  obtain ⟨hfield, hrest⟩ := List.append_inj h
    (by rw [length_padded hwidth hn, length_padded hwidth hm])
  exact ⟨padded_injective width hfield, hrest⟩

/-- The time of day, with the offset. -/
def timeChars (micros : ℕ) : List Char :=
  padded 2 (micros / 3600000000) ++ ':' :: (padded 2 (micros / 60000000 % 60) ++
    ':' :: (padded 2 (micros / 1000000 % 60) ++ '.' :: (padded 6 (micros % 1000000) ++
      ['+', '0', '0', ':', '0', '0'])))

/-- Month, day and time. -/
def tailChars (month day micros : ℕ) : List Char :=
  '-' :: (padded 2 month ++ '-' :: (padded 2 day ++ 'T' :: timeChars micros))

/-- `isoformat(timespec="microseconds")` of an instant in universal time -/
def isoformat (instant : ℤ) : String :=
  let date := dateOf (instant / 86400000000)
  String.ofList (paddedYear date.year ++
    tailChars date.month.toNat date.day.toNat (instant % 86400000000).toNat)

example : isoformat 1709209845000042 = "2024-02-29T12:30:45.000042+00:00" := by decide +kernel

theorem timeChars_inj {n m : ℕ} (hn : n < 86400000000) (hm : m < 86400000000)
    (h : timeChars n = timeChars m) : n = m := by
  obtain ⟨hhour, h⟩ := field_inj (by decide) (by omega) (by omega) h
  obtain ⟨hminute, h⟩ := field_inj (by decide) (by omega) (by omega) (List.cons.inj h).2
  obtain ⟨hsecond, h⟩ := field_inj (by decide) (by omega) (by omega) (List.cons.inj h).2
  obtain ⟨hmicros, -⟩ := field_inj (by decide) (by omega) (by omega) (List.cons.inj h).2
  omega

theorem length_tailChars {month day micros : ℕ} (hmonth : month < 100) (hday : day < 100)
    (hmicros : micros < 86400000000) : (tailChars month day micros).length = 28 := by
  have htwo {n : ℕ} (hn : n < 100) : (padded 2 n).length = 2 := length_padded (by decide) hn
  have hsix : (padded 6 (micros % 1000000)).length = 6 := length_padded (by decide) (by omega)
  simp only [tailChars, timeChars, List.length_cons, List.length_append, htwo hmonth, htwo hday,
    htwo (by omega : micros / 3600000000 < 100), htwo (by omega : micros / 60000000 % 60 < 100),
    htwo (by omega : micros / 1000000 % 60 < 100), hsix, List.length_nil]

theorem isoformat_injective : Function.Injective isoformat := by
  intro a b h
  have ha := dateOf_bounds (a / 86400000000)
  have hb := dateOf_bounds (b / 86400000000)
  obtain ⟨hyear, htail⟩ := List.append_inj' (String.ofList_injective h) (by
    rw [length_tailChars (by omega) (by omega) (by omega),
      length_tailChars (by omega) (by omega) (by omega)])
  have hyears := paddedYear_injective hyear
  obtain ⟨hmonth, htail⟩ := field_inj (by decide) (by omega) (by omega) (List.cons.inj htail).2
  obtain ⟨hday, htail⟩ := field_inj (by decide) (by omega) (by omega) (List.cons.inj htail).2
  have htime := timeChars_inj (by omega) (by omega) (List.cons.inj htail).2
  have hdate : dateOf (a / 86400000000) = dateOf (b / 86400000000) := by
    rcases hda : dateOf (a / 86400000000) with ⟨y, m, d⟩
    rcases hdb : dateOf (b / 86400000000) with ⟨y', m', d'⟩
    rw [hda] at ha hyears hmonth hday
    rw [hdb] at hb hyears hmonth hday
    dsimp only at ha hb hyears hmonth hday
    rw [Date.mk.injEq]
    omega
  have hdays := congrArg daysOf hdate
  rw [daysOf_dateOf, daysOf_dateOf] at hdays
  omega

end MediaSync.IsoInstants
