import Mathlib
import PuzzleInputs.Clock
import PuzzleInputs.Proofs.Calendar
import PuzzleInputs.Proofs.Puzzle

/-!
# Midnight

At an instant the clocks of a zone show a local time, which is the instant moved by the zone's offset.
As long as the calendar can name it, the date is that of the whole days in it, and a puzzle is out from
the local midnight on with which its day begins (`opens_at_midnight`). This holds for all tables of
offsets, and of the date by which a run goes.
-/

namespace PuzzleInputs.Zone

/-- The first date of the calendar. -/
def firstDate : Date := ⟨-262143, 1, 1, Nat.zero_lt_one, by decide⟩

/-- The last date of the calendar. -/
def lastDate : Date := ⟨262142, 12, 31, by decide, by decide⟩

/-- The local time at the instant `t`, in seconds since the local 1970-01-01T00:00. -/
def localSeconds (offsets : Offsets) (z : Zone) (t : Int) : Int := t + offsets z t

/-- The local time is on a date of the calendar. -/
def Named (seconds : Int) : Prop :=
  86400 * firstDate.dayNumber ≤ seconds ∧ seconds ≤ 86400 * lastDate.dayNumber + 86399

theorem named_iff {seconds : Int} :
    Named seconds ↔ firstSecond ≤ seconds ∧ seconds ≤ lastSecond := by
  have hfirst : firstSecond = 86400 * firstDate.dayNumber := by decide
  have hlast : lastSecond = 86400 * lastDate.dayNumber + 86399 := by decide
  rw [Named, hfirst, hlast]

variable {offsets : Offsets} {z : Zone} {t : Int} {date : Date}

/-- The date that is shown is the one with as many days before it as there are in the local time. -/
theorem dateAt?_eq_some :
    z.dateAt? offsets t = some date ↔
      Named (z.localSeconds offsets t) ∧ date.dayNumber = z.localSeconds offsets t / 86400 := by
  have hdate : date.dayNumber = z.localSeconds offsets t / 86400 ↔
      Date.ofDayNumber (z.localSeconds offsets t / 86400) = date := by
    rw [← Date.dayNumber_inj, Date.dayNumber_ofDayNumber, eq_comm]
  have hshown : z.dateAt? offsets t =
      if firstSecond ≤ z.localSeconds offsets t ∧ z.localSeconds offsets t ≤ lastSecond then
        some (Date.ofDayNumber (z.localSeconds offsets t / 86400))
      else none := rfl
  rw [hshown, hdate, named_iff, Option.ite_none_right_eq_some, Option.some.injEq]

theorem dateAt?_of_not_named (h : ¬ Named (z.localSeconds offsets t)) :
    z.dateAt? offsets t = none :=
  Option.eq_none_iff_forall_not_mem.mpr fun _ hdate => h (dateAt?_eq_some.mp hdate).1

/-- A date has come when the local midnight before it is past. -/
theorem le_date_iff (h : z.dateAt? offsets t = some date) {d : Date} :
    d ≤ date ↔ 86400 * d.dayNumber ≤ z.localSeconds offsets t := by
  have hdays := (dateAt?_eq_some.mp h).2
  rw [Date.le_iff_dayNumber_le, hdays]
  omega

/-- What the clocks of the zone mean for the release of puzzles, at the instant `t`. -/
structure OpensAtMidnight (offsets : Offsets) (z : Zone) (t : Int) : Prop where
  /-- The date is so many days after 1970-01-01 as there are whole days in the local time. -/
  date : Named (z.localSeconds offsets t) → ∃ date, z.dateAt? offsets t = some date ∧
    Date.epoch.CountsTo (z.localSeconds offsets t / 86400) date
  /-- A puzzle is out when as many days have gone by on the clocks as there are before its own. -/
  opens : ∀ date, z.dateAt? offsets t = some date → ∀ (year : Int) (day : Nat),
    -262143 ≤ year → year ≤ 262142 → 1 ≤ day → day ≤ 25 →
    ∃ release days, Puzzle.releaseDate year day = .ok release ∧
      (release.year = year ∧ release.month = 12 ∧ release.day = day) ∧
      Date.epoch.CountsTo days release ∧
      (release ≤ date ↔ 86400 * days ≤ z.localSeconds offsets t)
  /-- Outside the calendar there is no date. -/
  unnamed : ¬ Named (z.localSeconds offsets t) → z.dateAt? offsets t = none
  /-- While the offset stays the same, what is out stays out. -/
  stays : ∀ t', t ≤ t' → offsets z t' = offsets z t →
    ∀ date date' : Date, z.dateAt? offsets t = some date → z.dateAt? offsets t' = some date' →
    ∀ (year : Int) (day : Nat) (release : Date), Puzzle.releaseDate year day = .ok release →
      release ≤ date → release ≤ date'
  /-- A run goes by this date. -/
  today : ∀ clock : Clock, clock.offsets = offsets → clock.now = t →
    z.dateAt? offsets t = some (clock.today z)

/-- A zone opens the days of every event at its own midnight. -/
theorem opens_at_midnight (offsets : Offsets) (z : Zone) (t : Int) :
    OpensAtMidnight offsets z t where
  date hnamed := by
    have hcount := Date.dayNumber_ofDayNumber (z.localSeconds offsets t / 86400)
    exact ⟨_, dateAt?_eq_some.mpr ⟨hnamed, hcount⟩, Date.epoch_countsTo_iff.mpr hcount⟩
  opens date hdate year day hmin hmax hfirst hlast := by
    obtain ⟨release, hr⟩ := Puzzle.exists_releaseDate ⟨hmin, hmax⟩ ⟨hfirst, by omega⟩
    obtain ⟨-, -, hfields⟩ := Puzzle.releaseDate_ok hr
    exact ⟨release, release.dayNumber, hr, hfields, Date.epoch_countsTo_iff.mpr rfl,
      le_date_iff hdate⟩
  unnamed := dateAt?_of_not_named
  stays t' hle hoffset date date' hdate hdate' year day release _ hout := by
    rw [le_date_iff hdate] at hout
    rw [le_date_iff hdate']
    have hlater : z.localSeconds offsets t ≤ z.localSeconds offsets t' := by
      rw [localSeconds, localSeconds, hoffset]
      omega
    exact hout.trans hlater
  today clock hoffsets hnow := by
    rw [← hoffsets, ← hnow]
    exact clock.dateAt?_eq z

-- in New York the fifth of December has not begun when it is three o'clock in UTC
example :
    (named "America/New_York").dateAt? (tableOffsets 0) 1764903600 =
        some ⟨2025, 12, 4, by decide, by decide⟩ ∧
      (named "UTC").dateAt? (tableOffsets 0) 1764903600 =
        some ⟨2025, 12, 5, by decide, by decide⟩ := by
  decide +kernel

end PuzzleInputs.Zone
