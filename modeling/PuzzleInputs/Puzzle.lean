import PuzzleInputs.Calendar
import PuzzleInputs.Failure

/-!
# Puzzles of an event

An event has a puzzle for each of the days 1 to 25 of December. A puzzle is released at the start
of its day; its input has an address on the event's host and a file of its own.
-/

namespace PuzzleInputs.Puzzle

def month : Nat := 12

def days : List Nat := List.range' 1 25

/-- The day on which the puzzle of December `day` is released. -/
def releaseDate (year : Int) (day : Nat) : Except Failure Date :=
  match Date.of? year month day with
  | some date => .ok date
  | none => .error (.yearInvalid year day)

/-- The days of the event with their release dates, in order. -/
def schedule (year : Int) : Except Failure (List (Nat × Date)) :=
  days.mapM fun day => (releaseDate year day).map (day, ·)

/-- The address of an input. Slashes at the end of the base do not matter. -/
def address (base : String) (year : Int) (day : Nat) : String :=
  String.ofList (dropTrailing (· == '/') base.toList) ++ "/" ++ toString year ++ "/day/" ++
    toString day ++ "/input"

def fileName (day : Nat) : String := "input_" ++ zeroPadded 2 day

end PuzzleInputs.Puzzle
