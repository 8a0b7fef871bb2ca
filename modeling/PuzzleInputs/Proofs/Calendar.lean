import Mathlib
import PuzzleInputs.Calendar

/-!
# Counting days

`Date.next` is the day after a date, read off the lengths of the months alone. The day numbers of the
calendar count its steps (`dayNumber_next`), and so they order the dates (`lt_iff_dayNumber_lt`) and
tell them apart (`dayNumber_inj`). Counting days from one date to another, `Date.CountsTo`, is then
the same as subtracting their numbers (`countsTo_iff`).
-/

namespace PuzzleInputs

namespace Calendar

theorem monthLength_pos_iff {year : Int} {month : Nat} :
    1 ≤ monthLength year month ↔ 1 ≤ month ∧ month ≤ 12 := by
  constructor
  · intro h
    by_contra hno
    unfold monthLength at h
    split at h <;> omega
  · rintro ⟨hpos, hle⟩
    unfold monthLength
    cases isLeap year <;> interval_cases month <;> decide

theorem monthStart_mono (year : Int) : Monotone (monthStart year) :=
  monotone_nat_of_le_succ fun _ => Nat.le_add_right _ _

theorem yearStart_mono : Monotone yearStart := by
  refine monotone_int_of_le_succ fun year => ?_
  rw [yearStart_succ]
  omega

end Calendar

open Calendar

namespace Date

theorem month_bounds (d : Date) : 1 ≤ d.month ∧ d.month ≤ 12 :=
  monthLength_pos_iff.mp (d.day_pos.trans d.day_le)

/-- The day after. -/
def next (d : Date) : Date :=
  if h : d.day + 1 ≤ monthLength d.year d.month then
    { d with day := d.day + 1, day_pos := Nat.le_add_left 1 _, day_le := h }
  else if h : d.month + 1 ≤ 12 then
    { year := d.year, month := d.month + 1, day := 1, day_pos := Nat.zero_lt_one
      day_le := monthLength_pos_iff.mpr ⟨Nat.le_add_left 1 _, h⟩ }
  else
    { year := d.year + 1, month := 1, day := 1, day_pos := Nat.zero_lt_one
      day_le := monthLength_pos_iff.mpr (by decide) }

/-- The first day that the day numbers count from. -/
def epoch : Date := ⟨1970, 1, 1, Nat.zero_lt_one, by decide⟩

theorem dayNumber_epoch : epoch.dayNumber = 0 := by decide

/-- The number of a date is that of the first of its month or later, and before the next month's. -/
theorem dayNumber_bounds (d : Date) :
    yearStart d.year + monthStart d.year d.month ≤ d.dayNumber ∧
      d.dayNumber < yearStart d.year + monthStart d.year (d.month + 1) := by
  have hpos := d.day_pos
  have hle := d.day_le
  rw [dayNumber, monthStart]
  omega

theorem dayNumber_next (d : Date) : d.next.dayNumber = d.dayNumber + 1 := by
  have hpos := d.day_pos
  have hle := d.day_le
  have hmonth := d.month_bounds
  unfold next
  split
  · simp only [dayNumber]
    omega
  · split
    · simp only [dayNumber, monthStart]
      omega
    · -- the last day of December: the year that ends has all its months behind it
      have hm : d.month = 12 := by omega
      have hyear : monthStart d.year 13 = monthStart d.year d.month + monthLength d.year d.month := by
        rw [hm, monthStart]
      have hjan : monthStart (d.year + 1) 1 = 0 := rfl
      simp only [dayNumber, yearStart_succ, hyear, hjan]
      omega

/-! ## The order of dates -/

theorem dayNumber_lt_of_lt {a b : Date} (h : a < b) : a.dayNumber < b.dayNumber := by
  have ha := a.dayNumber_bounds
  have hb := b.dayNumber_bounds
  rcases h with hyear | ⟨hyear, hmonth | ⟨hmonth, hday⟩⟩
  · have hend : monthStart a.year (a.month + 1) ≤ monthStart a.year 13 :=
      monthStart_mono a.year (Nat.succ_le_succ a.month_bounds.2)
    have hstart := yearStart_mono (Int.add_one_le_of_lt hyear)
    rw [yearStart_succ] at hstart
    omega
  · have hstart : monthStart a.year (a.month + 1) ≤ monthStart a.year b.month :=
      monthStart_mono a.year hmonth
    rw [hyear] at ha hstart
    omega
  · rw [dayNumber, dayNumber, hyear, hmonth]
    omega

theorem eq_of_not_lt {a b : Date} (hab : ¬ a < b) (hba : ¬ b < a) : a = b := by
  change ¬ Before a b at hab
  change ¬ Before b a at hba
  unfold Before at hab hba
  obtain ⟨year, month, day, hpos, hle⟩ := a
  obtain ⟨year', month', day', hpos', hle'⟩ := b
  obtain ⟨rfl, rfl, rfl⟩ : year = year' ∧ month = month' ∧ day = day' := by
    simp only at hab hba
    omega
  rfl

theorem lt_iff_dayNumber_lt {a b : Date} : a < b ↔ a.dayNumber < b.dayNumber := by
  refine ⟨dayNumber_lt_of_lt, fun h => ?_⟩
  by_contra hab
  by_cases hba : b < a
  · have := dayNumber_lt_of_lt hba
    omega
  · rw [eq_of_not_lt hab hba] at h
    omega

theorem le_iff_dayNumber_le {a b : Date} : a ≤ b ↔ a.dayNumber ≤ b.dayNumber := by
  change ¬ b < a ↔ _
  rw [lt_iff_dayNumber_lt, Int.not_lt]

theorem dayNumber_inj {a b : Date} : a.dayNumber = b.dayNumber ↔ a = b := by
  refine ⟨fun h => eq_of_not_lt ?_ ?_, congrArg dayNumber⟩
  · rw [lt_iff_dayNumber_lt]
    omega
  · rw [lt_iff_dayNumber_lt]
    omega

/-! ## Counting from one date to another -/

/-- Counting `n` days on from `a` leads to `b`; where `n` is negative, counting on from `b` leads to
`a`. -/
def CountsTo (a : Date) (n : Int) (b : Date) : Prop := next^[n.toNat] a = next^[(-n).toNat] b

theorem dayNumber_iterate_next (n : Nat) (d : Date) : (next^[n] d).dayNumber = d.dayNumber + n := by
  induction n with
  | zero => simp
  | succ n ih =>
    rw [Function.iterate_succ_apply', dayNumber_next, ih]
    omega

theorem countsTo_iff {a b : Date} {n : Int} : a.CountsTo n b ↔ b.dayNumber = a.dayNumber + n := by
  rw [CountsTo, ← dayNumber_inj, dayNumber_iterate_next, dayNumber_iterate_next]
  omega

/-- The day number of a date counts its days from 1970-01-01. -/
theorem epoch_countsTo_iff {d : Date} {n : Int} : epoch.CountsTo n d ↔ d.dayNumber = n := by
  rw [countsTo_iff, dayNumber_epoch, Int.zero_add]

-- the year 0 has a leap day
example : (⟨0, 3, 1, Nat.zero_lt_one, by decide⟩ : Date).CountsTo (-2)
    ⟨0, 2, 28, by decide, by decide⟩ := by
  unfold CountsTo
  decide

end Date

end PuzzleInputs
