import PuzzleInputs.Zone

/-!
# Clocks

A clock has an instant and the tables that make it a date in each zone. It is far enough from the
ends of the calendar to show one everywhere: where a zone's clocks have left the calendar there is
no date to go by, and nothing can be run.

`Clock.ofTable` has the offsets of `Zone.rules`, which are those of the years 2015 to 2026.
-/

namespace PuzzleInputs

namespace Zone

/-- Minutes east of UTC at the instant `t`. -/
def Rule.minutesAt (r : Rule) (t : Int) : Int :=
  r.changes.foldl (fun minutes (next, quarter) => if 900 * quarter ≤ t then next else minutes)
    r.base

/-- The offsets of the table; `ownOffset` is the offset of the machine's own zone. -/
def tableOffsets (ownOffset : Int) : Offsets
  | .here, _ => ownOffset
  | .named name, t =>
    match rules.find? (·.names.contains name) with
    | some r => 60 * r.minutesAt t
    | none => 0

/-! ## Offsets of less than a day -/

def isModerate (minutes : Int) : Bool := -1440 < minutes && minutes < 1440

def Rule.isModerate (r : Rule) : Bool :=
  Zone.isModerate r.base && r.changes.all fun change => Zone.isModerate change.1

theorem all_isModerate : rules.all Rule.isModerate = true := by decide +kernel

theorem Rule.isModerate_minutesAt {r : Rule} (h : r.isModerate = true) (t : Int) :
    Zone.isModerate (r.minutesAt t) = true := by
  obtain ⟨names, base, changes⟩ := r
  rw [Rule.isModerate, Bool.and_eq_true] at h
  obtain ⟨hbase, hchanges⟩ := h
  show Zone.isModerate (changes.foldl _ base) = true
  induction changes generalizing base with
  | nil => exact hbase
  | cons change changes ih =>
    rw [List.all_cons, Bool.and_eq_true] at hchanges
    rw [List.foldl_cons]
    apply ih
    · dsimp only
      split
      · exact hchanges.1
      · exact hbase
    · exact hchanges.2

theorem tableOffsets_bounds {ownOffset : Int} (h : -86400 < ownOffset ∧ ownOffset < 86400)
    (z : Zone) (t : Int) :
    -86400 < tableOffsets ownOffset z t ∧ tableOffsets ownOffset z t < 86400 := by
  cases z with
  | here => exact h
  | named name =>
    cases hfind : rules.find? (·.names.contains name) with
    | none =>
      simp only [tableOffsets, hfind]
      decide
    | some r =>
      have hr := List.all_eq_true.mp all_isModerate r (List.mem_of_find?_eq_some hfind)
      have hminutes := Rule.isModerate_minutesAt hr t
      simp only [isModerate, Bool.and_eq_true, decide_eq_true_eq] at hminutes
      simp only [tableOffsets, hfind]
      omega

end Zone

structure Clock where
  /-- Seconds since 1970-01-01T00:00Z. -/
  now : Int
  offsets : Zone.Offsets
  shows : ∀ z, (Zone.dateAt? offsets z now).isSome

namespace Clock

/-- The date in the zone. -/
def today (c : Clock) (z : Zone) : Date := (z.dateAt? c.offsets c.now).get (c.shows z)

theorem dateAt?_eq (c : Clock) (z : Zone) : z.dateAt? c.offsets c.now = some (c.today z) :=
  (Option.some_get (c.shows z)).symm

/-- A day away from the ends of the calendar every zone has a date. -/
theorem shows_tableOffsets {now ownOffset : Int} (hown : -86400 < ownOffset ∧ ownOffset < 86400)
    (hnow : Zone.firstSecond + 86400 ≤ now ∧ now ≤ Zone.lastSecond - 86400) (z : Zone) :
    (z.dateAt? (Zone.tableOffsets ownOffset) now).isSome := by
  have hbounds := Zone.tableOffsets_bounds hown z now
  unfold Zone.dateAt?
  dsimp only
  rw [if_pos (by omega)]
  rfl

/-- A clock that goes by the table. -/
def ofTable (now ownOffset : Int) (hown : -86400 < ownOffset ∧ ownOffset < 86400)
    (hnow : Zone.firstSecond + 86400 ≤ now ∧ now ≤ Zone.lastSecond - 86400) : Clock where
  now
  offsets := Zone.tableOffsets ownOffset
  shows := shows_tableOffsets hown hnow

/-- The clock of a machine whose own zone is UTC. -/
def inUtc (now : Int) (hnow : Zone.firstSecond + 86400 ≤ now ∧ now ≤ Zone.lastSecond - 86400) :
    Clock :=
  .ofTable now 0 (by decide) hnow

/-- The first second of 1970. -/
def epoch : Clock := .inUtc 0 (by decide)

end Clock

end PuzzleInputs
