import MediaSync.Common.IsoInstants

/-!
# Dates and times as ISO texts

A date and a time of day as a clock shows them, with or without an offset from
universal time. The text has the microseconds, and the seconds of the offset,
only where there are any. Different values have different texts.
-/
namespace MediaSync.DateTimes
open IsoInstants

/-- `datetime.datetime`; the offset is what `utcoffset` answers, in microseconds. -/
structure DateTime where
  year : ℕ
  month : ℕ
  day : ℕ
  hour : ℕ := 0
  minute : ℕ := 0
  second : ℕ := 0
  microsecond : ℕ := 0
  offset : Option ℤ := none
  year_range : 1 ≤ year ∧ year ≤ 9999 := by decide
  month_range : 1 ≤ month ∧ month ≤ 12 := by decide
  day_range : 1 ≤ day ∧ day ≤ 31 := by decide
  hour_lt : hour < 24 := by decide
  minute_lt : minute < 60 := by decide
  second_lt : second < 60 := by decide
  microsecond_lt : microsecond < 1000000 := by decide
  offset_lt : ∀ o ∈ offset, o.natAbs < 86400000000 := by decide
  deriving DecidableEq

/-- The microseconds of a second, if there are any. -/
def fraction (micros : ℕ) : List Char := if micros = 0 then [] else '.' :: padded 6 micros

/-- The seconds of an offset, if there are any. -/
def offsetSeconds (micros : ℕ) : List Char :=
  if micros = 0 then [] else ':' :: (padded 2 (micros / 1000000) ++ fraction (micros % 1000000))

/-- An offset without its sign. -/
def offsetClock (micros : ℕ) : List Char :=
  padded 2 (micros / 3600000000) ++ ':' :: (padded 2 (micros / 60000000 % 60) ++
    offsetSeconds (micros % 60000000))

def offsetChars : Option ℤ → List Char
  | none => []
  | some offset => (if offset < 0 then '-' else '+') :: offsetClock offset.natAbs

namespace DateTime

/-- The date and the time up to the second. -/
def plainChars (moment : DateTime) (rest : List Char) : List Char :=
  padded 4 moment.year ++ '-' :: (padded 2 moment.month ++ '-' :: (padded 2 moment.day ++
    'T' :: (padded 2 moment.hour ++ ':' :: (padded 2 moment.minute ++
      ':' :: (padded 2 moment.second ++ rest)))))

def isoformat (moment : DateTime) : String :=
  String.ofList (moment.plainChars (fraction moment.microsecond ++ offsetChars moment.offset))

end DateTime

example : ({ year := 2024, month := 2, day := 29, hour := 12, offset := some (-19800000000) } :
    DateTime).isoformat = "2024-02-29T12:00:00-05:30" := by decide +kernel

/-! ## Different texts -/

/-- A fraction, and what follows it and begins with no dot. -/
theorem fraction_inj {n m : ℕ} {rest rest' : List Char} (hn : n < 1000000) (hm : m < 1000000)
    (hrest : ∀ cs, rest ≠ '.' :: cs) (hrest' : ∀ cs, rest' ≠ '.' :: cs)
    (h : fraction n ++ rest = fraction m ++ rest') : n = m ∧ rest = rest' := by
  unfold fraction at h
  split_ifs at h with hn₀ hm₀ hm₀
  · exact ⟨hn₀.trans hm₀.symm, h⟩
  · exact absurd h (hrest _)
  · exact absurd h.symm (hrest' _)
  · exact field_inj (by decide) (by omega) (by omega) (List.cons.inj h).2

theorem offsetSeconds_inj {n m : ℕ} (hn : n < 60000000) (hm : m < 60000000)
    (h : offsetSeconds n = offsetSeconds m) : n = m := by
  unfold offsetSeconds at h
  split_ifs at h with hn₀ hm₀ hm₀
  · exact hn₀.trans hm₀.symm
  · obtain ⟨hseconds, h⟩ := field_inj (by decide) (by omega) (by omega) (List.cons.inj h).2
    have hmicros : n % 1000000 = m % 1000000 ∧ ([] : List Char) = [] :=
      fraction_inj (by omega) (by omega) (by simp) (by simp) (congrArg (· ++ []) h)
    omega

theorem offsetClock_inj {n m : ℕ} (hn : n < 86400000000) (hm : m < 86400000000)
    (h : offsetClock n = offsetClock m) : n = m := by
  obtain ⟨hhour, h⟩ := field_inj (by decide) (by omega) (by omega) h
  obtain ⟨hminute, h⟩ := field_inj (by decide) (by omega) (by omega) (List.cons.inj h).2
  have hseconds := offsetSeconds_inj (by omega) (by omega) h
  omega

theorem offsetChars_inj {a b : Option ℤ} (ha : ∀ o ∈ a, o.natAbs < 86400000000)
    (hb : ∀ o ∈ b, o.natAbs < 86400000000) (h : offsetChars a = offsetChars b) : a = b := by
  rcases a with _ | a <;> rcases b with _ | b
  · rfl
  · cases h
  · cases h
  · obtain ⟨hsign, hclock⟩ := List.cons.inj h
    have habs := offsetClock_inj (ha a rfl) (hb b rfl) hclock
    split_ifs at hsign
    · exact congrArg some (by omega)
    · cases hsign
    · cases hsign
    · exact congrArg some (by omega)

theorem offsetChars_ne_dot (offset : Option ℤ) (cs : List Char) :
    offsetChars offset ≠ '.' :: cs := by
  rcases offset with _ | offset
  · exact (List.cons_ne_nil _ _).symm
  · intro h
    have hsign := (List.cons.inj h).1
    split_ifs at hsign <;> cases hsign

theorem isoformat_injective : Function.Injective DateTime.isoformat := by
  intro a b h
  have ha := a.year_range
  have hb := b.year_range
  have ha' := a.month_range
  have hb' := b.month_range
  have ha'' := a.day_range
  have hb'' := b.day_range
  have h := String.ofList_injective h
  obtain ⟨hyear, h⟩ := field_inj (by decide) (by omega) (by omega) h
  obtain ⟨hmonth, h⟩ := field_inj (by decide) (by omega) (by omega) (List.cons.inj h).2
  obtain ⟨hday, h⟩ := field_inj (by decide) (by omega) (by omega) (List.cons.inj h).2
  obtain ⟨hhour, h⟩ := field_inj (by decide) (a.hour_lt.trans (by decide))
    (b.hour_lt.trans (by decide)) (List.cons.inj h).2
  obtain ⟨hminute, h⟩ := field_inj (by decide) (a.minute_lt.trans (by decide))
    (b.minute_lt.trans (by decide)) (List.cons.inj h).2
  obtain ⟨hsecond, h⟩ := field_inj (by decide) (a.second_lt.trans (by decide))
    (b.second_lt.trans (by decide)) (List.cons.inj h).2
  obtain ⟨hmicros, h⟩ := fraction_inj a.microsecond_lt b.microsecond_lt
    (offsetChars_ne_dot _) (offsetChars_ne_dot _) h
  have hoffset := offsetChars_inj a.offset_lt b.offset_lt h
  obtain ⟨_, _, _, _, _, _, _, _, _⟩ := a
  obtain ⟨_, _, _, _, _, _, _, _, _⟩ := b
  dsimp only at hyear hmonth hday hhour hminute hsecond hmicros hoffset
  subst hyear hmonth hday hhour hminute hsecond hmicros hoffset
  rfl

/-! ## The characters of the texts -/

/-- What a text is made of. -/
def isIsoChar (c : Char) : Bool := c.isDigit || c ∈ ['-', ':', 'T', '.', '+']

theorem all_padded (width n : ℕ) : (padded width n).all isIsoChar = true := by
  rw [List.all_eq_true]
  intro c hc
  rw [isIsoChar, isDigit_of_mem_padded hc, Bool.true_or]

theorem all_fraction (micros : ℕ) : (fraction micros).all isIsoChar = true := by
  unfold fraction
  split
  · rfl
  · rw [List.all_cons, all_padded, Bool.and_true]
    decide

theorem all_offsetChars (offset : Option ℤ) : (offsetChars offset).all isIsoChar = true := by
  have hcolon : isIsoChar ':' = true := by decide
  have hclock (n : ℕ) : (offsetClock n).all isIsoChar = true := by
    unfold offsetClock offsetSeconds
    split <;> simp only [List.all_append, List.all_cons, all_padded, all_fraction, hcolon,
      List.all_nil, Bool.and_true]
  rcases offset with _ | offset
  · rfl
  · rw [offsetChars, List.all_cons, hclock, Bool.and_true]
    split <;> decide

theorem all_isoformat (moment : DateTime) : moment.isoformat.toList.all isIsoChar = true := by
  have hmarks : isIsoChar '-' = true ∧ isIsoChar ':' = true ∧ isIsoChar 'T' = true := by decide
  simp only [DateTime.isoformat, DateTime.plainChars, String.toList_ofList, List.all_append,
    List.all_cons, all_padded, all_fraction, all_offsetChars, hmarks, Bool.and_true]

end MediaSync.DateTimes
