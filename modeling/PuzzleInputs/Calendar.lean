import PuzzleInputs.Text.Decimal

/-!
# The calendar

Dates of the proleptic Gregorian calendar, which has a year 0. `yearStart y` counts the days from
1970-01-01 to January 1 of `y`, `Date.dayNumber` the days to any date, and `Date.ofDayNumber` goes
back. Only the years from `minYear` to `maxYear` can be named (`Date.of?`).
-/

namespace PuzzleInputs

namespace Calendar

def minYear : Int := -262143
def maxYear : Int := 262142

def isLeap (year : Int) : Bool := year % 4 == 0 && (year % 100 != 0 || year % 400 == 0)

/-- The number of days in a month; none for a number that is no month. -/
def monthLength (year : Int) : Nat → Nat
  | 2 => if isLeap year then 29 else 28
  | 4 | 6 | 9 | 11 => 30
  | 1 | 3 | 5 | 7 | 8 | 10 | 12 => 31
  | _ => 0

/-- Days from January 1 to the first of the month. -/
def monthStart (year : Int) : Nat → Nat
  | 0 => 0
  | m + 1 => monthStart year m + monthLength year m

/-- Days from 1970-01-01 to January 1 of `year`. -/
def yearStart (year : Int) : Int :=
  365 * (year - 1970) + ((year - 1) / 4 - 492) - ((year - 1) / 100 - 19) + ((year - 1) / 400 - 4)

theorem isLeap_iff (y : Int) :
    isLeap y = true ↔ y % 4 = 0 ∧ (y % 100 ≠ 0 ∨ y % 400 = 0) := by
  simp [isLeap]

theorem yearStart_succ (y : Int) : yearStart (y + 1) = yearStart y + monthStart y 13 := by
  have h := isLeap_iff y
  simp only [monthStart, monthLength]
  cases hl : isLeap y
  · simp only [hl, yearStart] at *; simp at *; omega
  · simp only [hl, yearStart] at *; simp at *; omega

/-- A first estimate of the year of day `n`, from the mean length of a year. -/
def yearGuess (n : Int) : Int := 1970 + 400 * n / 146097

/-- The estimate is at most one year off. -/
theorem yearGuess_bounds (n : Int) :
    yearStart (yearGuess n - 1) ≤ n ∧ n < yearStart (yearGuess n + 1 + 1) := by
  simp only [yearGuess, yearStart]
  omega

/-- The year of the day `n` days after 1970-01-01. -/
def yearOf (n : Int) : Int :=
  if n < yearStart (yearGuess n) then yearGuess n - 1
  else if yearStart (yearGuess n + 1) ≤ n then yearGuess n + 1
  else yearGuess n

theorem yearOf_bounds (n : Int) : yearStart (yearOf n) ≤ n ∧ n < yearStart (yearOf n + 1) := by
  have h := yearGuess_bounds n
  by_cases h1 : n < yearStart (yearGuess n)
  · rw [yearOf, if_pos h1, Int.sub_add_cancel]
    exact ⟨h.1, h1⟩
  · by_cases h2 : yearStart (yearGuess n + 1) ≤ n
    · rw [yearOf, if_neg h1, if_pos h2]
      exact ⟨h2, h.2⟩
    · rw [yearOf, if_neg h1, if_neg h2]
      omega

/-- The last month of `1, …, top` that starts at or before day `offset` of the year. -/
def monthOf (year : Int) (offset : Nat) : Nat → Nat
  | 0 => 0
  | top + 1 => if monthStart year (top + 1) ≤ offset then top + 1 else monthOf year offset top

theorem monthOf_bounds {year : Int} {offset : Nat} (top : Nat)
    (h : offset < monthStart year (top + 1)) :
    monthStart year (monthOf year offset top) ≤ offset ∧
      offset < monthStart year (monthOf year offset top + 1) := by
  induction top with
  | zero => simp [monthStart, monthLength] at h
  | succ top ih =>
    simp only [monthOf]
    split
    · exact ⟨by assumption, h⟩
    · exact ih (by omega)

end Calendar

open Calendar

structure Date where
  year : Int
  month : Nat
  day : Nat
  day_pos : 1 ≤ day
  day_le : day ≤ monthLength year month
  deriving DecidableEq

namespace Date

/-- The date of that name, if the calendar has it. -/
def of? (year : Int) (month day : Nat) : Option Date :=
  if h : (minYear ≤ year ∧ year ≤ maxYear) ∧ 1 ≤ day ∧ day ≤ monthLength year month then
    some ⟨year, month, day, h.2.1, h.2.2⟩
  else none

/-- Days from 1970-01-01. -/
def dayNumber (d : Date) : Int :=
  yearStart d.year + monthStart d.year d.month + (d.day - 1)

theorem offset_lt (n : Int) : (n - yearStart (yearOf n)).toNat < monthStart (yearOf n) 13 := by
  have h := yearOf_bounds n
  rw [yearStart_succ] at h
  omega

/-- The date `n` days after 1970-01-01. -/
def ofDayNumber (n : Int) : Date :=
  let year := yearOf n
  let offset := (n - yearStart year).toNat
  let month := monthOf year offset 12
  have h : monthStart year month ≤ offset ∧ offset < monthStart year (month + 1) :=
    monthOf_bounds 12 (offset_lt n)
  { year, month
    day := offset - monthStart year month + 1
    day_pos := by omega
    day_le := by rw [monthStart] at h; omega }

theorem dayNumber_ofDayNumber (n : Int) : (ofDayNumber n).dayNumber = n := by
  have hy := yearOf_bounds n
  have hm := monthOf_bounds 12 (offset_lt n)
  simp only [dayNumber, ofDayNumber]
  omega

/-- Dates are ordered by year, then month, then day. -/
def Before (a b : Date) : Prop :=
  a.year < b.year ∨ a.year = b.year ∧ (a.month < b.month ∨ a.month = b.month ∧ a.day < b.day)

instance : LT Date := ⟨Before⟩
instance : LE Date := ⟨fun a b => ¬ b < a⟩

instance (a b : Date) : Decidable (a < b) := by
  change Decidable (Before a b); unfold Before; infer_instance

instance (a b : Date) : Decidable (a ≤ b) := inferInstanceAs (Decidable (¬ b < a))

/-- Four digits for the years 0 to 9999; any other year has a sign and at least four digits. -/
def yearText (year : Int) : String :=
  if year < 0 then "-" ++ zeroPadded 4 year.natAbs
  else if year ≤ 9999 then zeroPadded 4 year.natAbs
  else "+" ++ zeroPadded 4 year.natAbs

def text (d : Date) : String :=
  yearText d.year ++ "-" ++ zeroPadded 2 d.month ++ "-" ++ zeroPadded 2 d.day

end Date

end PuzzleInputs
