/-!
# Trimming and cutting text

Functions on lists of characters; the ones on `String` go through `toList`. `isBlank` is the Unicode
property White_Space.
-/

namespace PuzzleInputs

/-- Drops the longest tail of characters in `p`. -/
def dropTrailing (p : Char → Bool) (cs : List Char) : List Char :=
  (cs.reverse.dropWhile p).reverse

/-- The Unicode property White_Space. -/
def isBlank (c : Char) : Bool :=
  let n := c.toNat
  (0x09 ≤ n && n ≤ 0x0D) || n == 0x20 || n == 0x85 || n == 0xA0 || n == 0x1680 ||
    (0x2000 ≤ n && n ≤ 0x200A) || n == 0x2028 || n == 0x2029 || n == 0x202F || n == 0x205F ||
    n == 0x3000

/-- Drops the blanks at the two ends. -/
def trimBlank (text : String) : String :=
  String.ofList (dropTrailing isBlank (text.toList.dropWhile isBlank))

/-- The pieces of `cs` between the separators. There is always at least one. -/
def pieces (sep : Char) : List Char → List (List Char)
  | [] => [[]]
  | c :: cs =>
    if c = sep then [] :: pieces sep cs
    else
      match pieces sep cs with
      | [] => [[c]]
      | first :: rest => (c :: first) :: rest

/-- The text before the first separator and, if there is one, the text after it. -/
def cutAt (sep : Char) (cs : List Char) : List Char × Option (List Char) :=
  (cs.takeWhile (· != sep), (cs.dropWhile (· != sep)).tail?)

/-- Equality up to the case of ASCII letters. -/
def sameAsciiLetters (a b : String) : Bool :=
  a.toList.map Char.toLower == b.toList.map Char.toLower

end PuzzleInputs
