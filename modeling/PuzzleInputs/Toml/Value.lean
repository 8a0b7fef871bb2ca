import PuzzleInputs.Text.Decimal
import PuzzleInputs.Text.Trim

/-!
# TOML values

A document is a table: a list of keys, no two alike, with their values.
-/

namespace PuzzleInputs.Toml

/-- A number with a point or an exponent: `finite m e` is `m * 10^e`. -/
inductive Real where
  | finite (mantissa exponent : Int)
  | infinite (negative : Bool)
  | nan
  deriving DecidableEq, Repr

structure Time where
  hour : Nat
  minute : Nat
  second : Option Nat
  /-- The digits after the point. -/
  fraction : Option (List Char)
  deriving DecidableEq, Repr

inductive Offset where
  | utc
  /-- Minutes ahead of universal time. -/
  | ahead (minutes : Int)
  deriving DecidableEq, Repr

structure DateTime where
  date : Option (Nat × Nat × Nat)
  time : Option Time
  offset : Option Offset
  deriving DecidableEq, Repr

inductive Value where
  | string (text : String)
  | integer (n : Int)
  | real (x : Real)
  | boolean (b : Bool)
  | dateTime (d : DateTime)
  | array (items : List Value)
  | table (entries : List (String × Value))

abbrev Table := List (String × Value)

namespace Time

/-- The fraction to nine places, less zeros at its end; a fraction of zeros keeps one. -/
def fractionText (digits : List Char) : String :=
  match dropTrailing (· == '0') (digits.take 9) with
  | [] => ".0"
  | kept => "." ++ String.ofList kept

def text (t : Time) : String :=
  zeroPadded 2 t.hour ++ ":" ++ zeroPadded 2 t.minute ++
    (t.second.map fun s => ":" ++ zeroPadded 2 s).getD "" ++ (t.fraction.map fractionText).getD ""

end Time

/-- Hours and minutes with a sign, which is `+` where there is no difference. -/
def Offset.text : Offset → String
  | .utc => "Z"
  | .ahead minutes =>
    (if minutes < 0 then "-" else "+") ++ zeroPadded 2 (minutes.natAbs / 60) ++ ":" ++
      zeroPadded 2 (minutes.natAbs % 60)

/-- The written form, with `T` between date and time. -/
def DateTime.text (d : DateTime) : String :=
  let date := (d.date.map fun (y, m, day) =>
    zeroPadded 4 y ++ "-" ++ zeroPadded 2 m ++ "-" ++ zeroPadded 2 day).getD ""
  let time := (d.time.map Time.text).getD ""
  let between := if d.date.isSome && d.time.isSome then "T" else ""
  date ++ between ++ time ++ (d.offset.map Offset.text).getD ""

end PuzzleInputs.Toml
