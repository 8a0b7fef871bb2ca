import PuzzleInputs.Calendar
import PuzzleInputs.Failure
import PuzzleInputs.Zone.Table

/-!
# Time zones

A zone is the machine's own (`here`) or one of the named zones. `Zone.parse` reads what the user
writes; `Zone.dateAt?` is the date that a zone's clocks show at an instant, given in seconds since
1970-01-01T00:00Z. How far the clocks are from UTC is left to the tables (`Offsets`).
-/

namespace PuzzleInputs

inductive Zone where
  | here
  | named (name : String)
  deriving DecidableEq, Repr

namespace Zone

def names : List String := rules.flatMap Rule.names

/-- Blanks around the text do not matter. `local` and no text at all mean the machine's own zone,
`utc` and `z` mean UTC, all three in any case; a name must be written exactly. -/
def parse : Option String → Except Failure Zone
  | none => .ok .here
  | some raw =>
    let name := trimBlank raw
    if name.isEmpty || sameAsciiLetters name "local" then .ok .here
    else if sameAsciiLetters name "utc" || sameAsciiLetters name "z" then .ok (.named "UTC")
    else if names.contains name then .ok (.named name)
    else .error (.zoneUnknown name)

/-- Seconds by which the clocks of a zone are east of UTC, at each instant. -/
abbrev Offsets := Zone → Int → Int

/-- The first and the last second that the calendar can name. -/
def firstSecond : Int := 86400 * Calendar.yearStart Calendar.minYear
def lastSecond : Int := 86400 * Calendar.yearStart (Calendar.maxYear + 1) - 1

/-- The date that the clocks of the zone show at the instant `t`, unless they have left the
calendar. -/
def dateAt? (offsets : Offsets) (z : Zone) (t : Int) : Option Date :=
  let shown := t + offsets z t
  if firstSecond ≤ shown ∧ shown ≤ lastSecond then some (Date.ofDayNumber (shown / 86400)) else none

/-- The zone as diagnostics show it. -/
def describe : Zone → String
  | .here => "Local"
  | .named name => "Named(" ++ name ++ ")"

end Zone

end PuzzleInputs
