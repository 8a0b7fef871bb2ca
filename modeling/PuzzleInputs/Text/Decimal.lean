/-!
# Whole numbers in decimal

`zeroPadded` writes a number with a least count of digits. `readNat` and `readInt` read one: an
optional sign, then ASCII digits only, and a value inside the given bounds. The text is read from
the left, and the first character that spoils it decides the fault.
-/

namespace PuzzleInputs

/-- Writes `n` in decimal, filled up with zeros on the left to `width` digits. -/
def zeroPadded (width n : Nat) : String :=
  let digits := toString n
  String.ofList (List.replicate (width - digits.length) '0') ++ digits

namespace Decimal

/-- Why a text is not a number in range. -/
inductive Fault where
  | empty
  | invalidDigit
  | tooLarge
  | tooSmall
  deriving DecidableEq, Repr

def Fault.message : Fault → String
  | .empty => "cannot parse integer from empty string"
  | .invalidDigit => "invalid digit found in string"
  | .tooLarge => "number too large to fit in target type"
  | .tooSmall => "number too small to fit in target type"

/-- The value of an ASCII digit. -/
def digit? (c : Char) : Option Nat :=
  if '0' ≤ c ∧ c ≤ '9' then some (c.toNat - '0'.toNat) else none

/-- Reads digits from the left onto `acc`; `overflow` is the fault of passing `bound`. -/
def readDigits (bound : Nat) (overflow : Fault) (acc : Nat) : List Char → Except Fault Nat
  | [] => .ok acc
  | c :: cs =>
    match digit? c with
    | none => .error .invalidDigit
    | some d =>
      if 10 * acc + d ≤ bound then readDigits bound overflow (10 * acc + d) cs
      else .error overflow

/-- At least one digit must follow a sign. -/
def readMagnitude (bound : Nat) (overflow : Fault) : List Char → Except Fault Nat
  | [] => .error .invalidDigit
  | cs => readDigits bound overflow 0 cs

/-- A number from 0 to `bound`, with an optional plus sign. -/
def readNat (bound : Nat) (text : String) : Except Fault Nat :=
  match text.toList with
  | [] => .error .empty
  | '+' :: cs => readMagnitude bound .tooLarge cs
  | cs => readMagnitude bound .tooLarge cs

/-- A number from `-(bound + 1)` to `bound`, with an optional sign. -/
def readInt (bound : Nat) (text : String) : Except Fault Int :=
  match text.toList with
  | [] => .error .empty
  | '+' :: cs => (readMagnitude bound .tooLarge cs).map Int.ofNat
  | '-' :: cs => (readMagnitude (bound + 1) .tooSmall cs).map fun n => -Int.ofNat n
  | cs => (readMagnitude bound .tooLarge cs).map Int.ofNat

end Decimal

end PuzzleInputs
