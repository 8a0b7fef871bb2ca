import PuzzleInputs.Calendar
import PuzzleInputs.Toml.Value
import PuzzleInputs.Word

/-!
# Strings, numbers and date-times

Readers of TOML's scalar values. A string reader starts behind the opening quotes and gives the
text and what follows the closing ones; the readers of numbers and date-times take a whole token.
-/

namespace PuzzleInputs.Toml

/-- Characters that no string or comment may hold; the tab is not among them. -/
def isControl (c : Char) : Bool := (c.toNat < 0x20 && c != '\t') || c.toNat == 0x7F

/-! ## Strings -/

def hexDigit? (c : Char) : Option Nat :=
  if '0' ≤ c ∧ c ≤ '9' then some (c.toNat - '0'.toNat)
  else if 'a' ≤ c ∧ c ≤ 'f' then some (c.toNat - 'a'.toNat + 10)
  else if 'A' ≤ c ∧ c ≤ 'F' then some (c.toNat - 'A'.toNat + 10)
  else none

/-- The character whose number is written in hexadecimal. -/
def scalar? (digits : List Char) : Option Char := do
  let n ← digits.foldlM (fun acc c => (hexDigit? c).map (16 * acc + ·)) 0
  if n.isValidChar then some (Char.ofNat n) else none

/-- The character of a one-letter escape. -/
def escape? : Char → Option Char
  | 'b' => some '\x08'
  | 't' => some '\t'
  | 'n' => some '\n'
  | 'f' => some '\x0c'
  | 'r' => some '\r'
  | 'e' => some '\x1b'
  | '"' => some '"'
  | '\\' => some '\\'
  | _ => none

/-- Reads up to a double quote. `acc` holds the characters so far, the last one first. -/
def basicString (acc : List Char) : List Char → Option (String × List Char)
  | [] => none
  | '"' :: rest => some (String.ofList acc.reverse, rest)
  | '\\' :: 'x' :: a :: b :: rest => do basicString ((← scalar? [a, b]) :: acc) rest
  | '\\' :: 'u' :: a :: b :: c :: d :: rest => do
    basicString ((← scalar? [a, b, c, d]) :: acc) rest
  | '\\' :: 'U' :: a :: b :: c :: d :: e :: f :: g :: h :: rest => do
    basicString ((← scalar? [a, b, c, d, e, f, g, h]) :: acc) rest
  | '\\' :: c :: rest => do basicString ((← escape? c) :: acc) rest
  | c :: rest => if isControl c then none else basicString (c :: acc) rest

/-- Where the reader of a multi-line string stands. -/
inductive Fold where
  | text
  /-- Behind a backslash and blanks: the line must end here. -/
  | lineEnd
  /-- Behind a folded line end: blanks and line ends are left out. -/
  | blank
  deriving DecidableEq, Repr

/-- Reads up to three double quotes. One or two more belong to the text. -/
def multilineBasic (acc : List Char) : Fold → List Char → Option (String × List Char)
  | _, [] => none
  | .lineEnd, c :: rest =>
    if c == ' ' || c == '\t' then multilineBasic acc .lineEnd rest
    else if c == '\n' then multilineBasic acc .blank rest
    else
      match c, rest with
      | '\r', '\n' :: rest => multilineBasic acc .blank rest
      | _, _ => none
  | .blank, ' ' :: rest => multilineBasic acc .blank rest
  | .blank, '\t' :: rest => multilineBasic acc .blank rest
  | .blank, '\n' :: rest => multilineBasic acc .blank rest
  | .blank, '\r' :: '\n' :: rest => multilineBasic acc .blank rest
  | _, '"' :: '"' :: '"' :: '"' :: '"' :: rest =>
    some (String.ofList ('"' :: '"' :: acc).reverse, rest)
  | _, '"' :: '"' :: '"' :: '"' :: rest => some (String.ofList ('"' :: acc).reverse, rest)
  | _, '"' :: '"' :: '"' :: rest => some (String.ofList acc.reverse, rest)
  | _, '\\' :: 'x' :: a :: b :: rest => do multilineBasic ((← scalar? [a, b]) :: acc) .text rest
  | _, '\\' :: 'u' :: a :: b :: c :: d :: rest => do
    multilineBasic ((← scalar? [a, b, c, d]) :: acc) .text rest
  | _, '\\' :: 'U' :: a :: b :: c :: d :: e :: f :: g :: h :: rest => do
    multilineBasic ((← scalar? [a, b, c, d, e, f, g, h]) :: acc) .text rest
  | _, '\\' :: ' ' :: rest => multilineBasic acc .lineEnd rest
  | _, '\\' :: '\t' :: rest => multilineBasic acc .lineEnd rest
  | _, '\\' :: '\n' :: rest => multilineBasic acc .blank rest
  | _, '\\' :: '\r' :: '\n' :: rest => multilineBasic acc .blank rest
  | _, '\\' :: c :: rest => do multilineBasic ((← escape? c) :: acc) .text rest
  | _, '\n' :: rest => multilineBasic ('\n' :: acc) .text rest
  | _, '\r' :: '\n' :: rest => multilineBasic ('\n' :: '\r' :: acc) .text rest
  | _, c :: rest => if isControl c then none else multilineBasic (c :: acc) .text rest

/-- Reads up to a single quote. -/
def literalString (acc : List Char) : List Char → Option (String × List Char)
  | [] => none
  | '\x27' :: rest => some (String.ofList acc.reverse, rest)
  | c :: rest => if isControl c then none else literalString (c :: acc) rest

/-- Reads up to three single quotes. One or two more belong to the text. -/
def multilineLiteral (acc : List Char) : List Char → Option (String × List Char)
  | [] => none
  | '\x27' :: '\x27' :: '\x27' :: '\x27' :: '\x27' :: rest =>
    some (String.ofList ('\x27' :: '\x27' :: acc).reverse, rest)
  | '\x27' :: '\x27' :: '\x27' :: '\x27' :: rest =>
    some (String.ofList ('\x27' :: acc).reverse, rest)
  | '\x27' :: '\x27' :: '\x27' :: rest => some (String.ofList acc.reverse, rest)
  | '\n' :: rest => multilineLiteral ('\n' :: acc) rest
  | '\r' :: '\n' :: rest => multilineLiteral ('\n' :: '\r' :: acc) rest
  | c :: rest => if isControl c then none else multilineLiteral (c :: acc) rest

/-- A line end directly behind the opening quotes is left out. -/
def dropFirstLineEnd : List Char → List Char
  | '\n' :: rest => rest
  | '\r' :: '\n' :: rest => rest
  | cs => cs

/-- A string in any of the four notations. -/
def string? : List Char → Option (String × List Char)
  | '"' :: '"' :: '"' :: rest => multilineBasic [] .text (dropFirstLineEnd rest)
  | '"' :: rest => basicString [] rest
  | '\x27' :: '\x27' :: '\x27' :: rest => multilineLiteral [] (dropFirstLineEnd rest)
  | '\x27' :: rest => literalString [] rest
  | _ => none

/-! ## Numbers -/

def isDigit (c : Char) : Bool := '0' ≤ c && c ≤ '9'

/-- Digits, with single underscores between them at most. -/
def digitRun (ok : Char → Bool) : List Char → Option (List Char)
  | [] => none
  | [c] => if ok c then some [c] else none
  | c :: '_' :: rest => if ok c then (digitRun ok rest).map (c :: ·) else none
  | c :: rest => if ok c then (digitRun ok rest).map (c :: ·) else none

def ofDigits (base : Nat) (digits : List Char) : Nat :=
  digits.foldl (fun acc c => base * acc + (hexDigit? c).getD 0) 0

/-- The whole part of a number has no leading zero. -/
def wholePart (cs : List Char) : Option (List Char) := do
  let digits ← digitRun isDigit cs
  if digits.head? == some '0' && digits.length > 1 then none else some digits

/-- Whether the number is negative, and what follows its sign. -/
def cutSign : List Char → Bool × List Char
  | '-' :: rest => (true, rest)
  | '+' :: rest => (false, rest)
  | cs => (false, cs)

def signed (negative : Bool) (n : Nat) : Int := if negative then -n else n

/-- A whole number of any size. -/
def wholeNumber? : List Char → Option Int
  | '0' :: 'x' :: rest => (digitRun (fun c => (hexDigit? c).isSome) rest).map (ofDigits 16 ·)
  | '0' :: 'o' :: rest => (digitRun (fun c => '0' ≤ c && c ≤ '7') rest).map (ofDigits 8 ·)
  | '0' :: 'b' :: rest => (digitRun (fun c => c == '0' || c == '1') rest).map (ofDigits 2 ·)
  | cs => (wholePart (cutSign cs).2).map fun digits => signed (cutSign cs).1 (ofDigits 10 digits)

/-- An integer fits in 128 bits, one of which is a sign if it is negative. -/
def integer? (cs : List Char) : Option Int :=
  (wholeNumber? cs).filter fun n =>
    decide (-(Word.maxSigned128 + 1 : Int) ≤ n) && decide (n ≤ (Word.max128 : Int))

/-- The least number that is rounded to infinity: halfway from the largest double to 2^1024. -/
def realLimit : Nat := 1 <<< 1024 - 1 <<< 970

/-- Whether the digits, times ten to the `e`, are rounded to infinity. -/
def overflows (digits : List Char) (e : Int) : Bool :=
  let m := ofDigits 10 digits
  if m = 0 then false
  else if 0 ≤ e then decide (400 < e) || decide (realLimit ≤ m * Nat.pow 10 e.toNat)
  else decide (-e ≤ digits.length) && decide (realLimit * Nat.pow 10 (-e).toNat ≤ m)

/-- What follows the mark of an exponent. -/
def exponent? (cs : List Char) : Option Int := do
  let digits ← digitRun isDigit (cutSign cs).2
  some (signed (cutSign cs).1 (ofDigits 10 digits))

/-- The part behind the whole part: a point with digits, an exponent, or both. -/
def fractionAndExponent : List Char → Option (List Char × Int)
  | '.' :: rest => do
    let inner (c : Char) := isDigit c || c == '_'
    let digits ← digitRun isDigit (rest.takeWhile inner)
    match rest.dropWhile inner with
    | [] => some (digits, 0)
    | mark :: tail =>
      if mark == 'e' || mark == 'E' then (exponent? tail).map fun e => (digits, e) else none
  | mark :: rest =>
    if mark == 'e' || mark == 'E' then (exponent? rest).map fun e => ([], e) else none
  | [] => none

def real? (cs : List Char) : Option Real := do
  let (negative, rest) := cutSign cs
  if rest == "inf".toList then some (.infinite negative)
  else if rest == "nan".toList then some .nan
  else
    let inner (c : Char) := isDigit c || c == '_'
    let whole ← wholePart (rest.takeWhile inner)
    let (fraction, e) ← fractionAndExponent (rest.dropWhile inner)
    let digits := whole ++ fraction
    let e := e - fraction.length
    if overflows digits e then none
    else some (.finite (signed negative (ofDigits 10 digits)) e)

/-! ## Dates and times -/

/-- A number of exactly these digits. -/
def fixed? (digits : List Char) : Option Nat :=
  if digits.all isDigit then some (ofDigits 10 digits) else none

def date? : List Char → Option ((Nat × Nat × Nat) × List Char)
  | a :: b :: c :: d :: '-' :: e :: f :: '-' :: g :: h :: rest => do
    let year ← fixed? [a, b, c, d]
    let month ← fixed? [e, f]
    let day ← fixed? [g, h]
    if 1 ≤ day ∧ day ≤ Calendar.monthLength year month then some ((year, month, day), rest)
    else none
  | _ => none

def hourMinute? (limit : Nat) : List Char → Option ((Nat × Nat) × List Char)
  | a :: b :: ':' :: c :: d :: rest => do
    let hour ← fixed? [a, b]
    let minute ← fixed? [c, d]
    if hour ≤ limit ∧ minute ≤ 59 then some ((hour, minute), rest) else none
  | _ => none

def time? (cs : List Char) : Option (Time × List Char) := do
  let ((hour, minute), rest) ← hourMinute? 23 cs
  match rest with
  | ':' :: a :: b :: rest =>
    let second ← fixed? [a, b]
    if 60 < second then none
    else
      match rest with
      | '.' :: rest =>
        let digits := rest.takeWhile isDigit
        if digits.isEmpty then none
        else some (⟨hour, minute, some second, some digits⟩, rest.dropWhile isDigit)
      | _ => some (⟨hour, minute, some second, none⟩, rest)
  | _ => some (⟨hour, minute, none, none⟩, rest)

def offset? : List Char → Option Offset
  | ['Z'] => some .utc
  | ['z'] => some .utc
  | sign :: rest => do
    let negative ← if sign == '-' then some true else if sign == '+' then some false else none
    let ((hour, minute), rest) ← hourMinute? 23 rest
    if rest.isEmpty then some (.ahead (signed negative (60 * hour + minute))) else none
  | [] => none

def dateTime? (cs : List Char) : Option DateTime :=
  match date? cs with
  | some (date, []) => some ⟨some date, none, none⟩
  | some (date, sep :: rest) => do
    if sep == 'T' || sep == 't' || sep == ' ' then
      let (time, rest) ← time? rest
      if rest.isEmpty then some ⟨some date, some time, none⟩
      else some ⟨some date, some time, some (← offset? rest)⟩
    else none
  | none => do
    let (time, rest) ← time? cs
    if rest.isEmpty then some ⟨none, some time, none⟩ else none

/-- The value of a token without quotes or brackets. -/
def bareValue? (token : List Char) : Option Value :=
  if token == "true".toList then some (.boolean true)
  else if token == "false".toList then some (.boolean false)
  else
    (integer? token).map .integer <|> (real? token).map .real <|>
      (dateTime? token).map .dateTime

end PuzzleInputs.Toml
