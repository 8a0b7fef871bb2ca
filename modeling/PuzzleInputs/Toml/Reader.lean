import PuzzleInputs.Toml.Scalar
import PuzzleInputs.Toml.Tree

/-!
# Reading a TOML document

The readers take a list of characters and give what they read and the rest. Values can be nested
`depthLimit` deep. Blanks and comments are passed over by `skipBlank`, `skipTrivia` (line ends as
well) and `lineEnd`.
-/

namespace PuzzleInputs.Toml

def depthLimit : Nat := 80

/-! ## Blanks, comments and keys -/

def skipBlank (cs : List Char) : List Char := cs.dropWhile fun c => c == ' ' || c == '\t'

/-- Passes over blanks, line ends and comments. -/
def skipTrivia (inComment : Bool) : List Char → Option (List Char)
  | [] => some []
  | '\n' :: rest => skipTrivia false rest
  | '\r' :: '\n' :: rest => skipTrivia false rest
  | c :: rest =>
    if inComment then if isControl c then none else skipTrivia true rest
    else if c == ' ' || c == '\t' then skipTrivia false rest
    else if c == '#' then skipTrivia true rest
    else some (c :: rest)

/-- Passes over the rest of a line on which nothing but a comment may stand. -/
def lineEnd (inComment : Bool) : List Char → Option (List Char)
  | [] => some []
  | '\n' :: rest => some rest
  | '\r' :: '\n' :: rest => some rest
  | c :: rest =>
    if inComment then if isControl c then none else lineEnd true rest
    else if c == ' ' || c == '\t' then lineEnd false rest
    else if c == '#' then lineEnd true rest
    else none

def isBareKey (c : Char) : Bool := c.isAlphanum || c == '_' || c == '-'

def simpleKey? : List Char → Option (String × List Char)
  | '"' :: rest => basicString [] rest
  | '\x27' :: rest => literalString [] rest
  | cs =>
    let name := cs.takeWhile isBareKey
    if name.isEmpty then none else some (String.ofList name, cs.dropWhile isBareKey)

/-- A key with its dots, and the blanks behind it. There are `fuel` parts at most. -/
def dottedKey? : Nat → List Char → Option (List String × List Char)
  | 0, _ => none
  | fuel + 1, cs => do
    let (key, rest) ← simpleKey? (skipBlank cs)
    match skipBlank rest with
    | '.' :: rest =>
      let (keys, rest) ← dottedKey? fuel rest
      some (key :: keys, rest)
    | rest => some ([key], rest)

/-- A path of keys and its last key. -/
def cutLast (keys : List String) : Option (List String × String) :=
  keys.getLast?.map fun last => (keys.dropLast, last)

/-! ## Values -/

abbrev Reader (α : Type) := List Char → Option (α × List Char)

def endsToken (c : Char) : Bool :=
  c == ' ' || c == '\t' || c == '\n' || c == '\r' || c == ',' || c == ']' || c == '}' ||
    c == '#' || c == '='

/-- A value without quotes or brackets. Between a date and a time there may be a blank. -/
def scalarToken? (cs : List Char) : Option (Value × List Char) := do
  let inside (c : Char) := !endsToken c
  let token := cs.takeWhile inside
  let rest := cs.dropWhile inside
  match date? token, rest with
  | some (_, []), ' ' :: c :: more =>
    if isDigit c then
      let time := (c :: more).takeWhile inside
      some (← bareValue? (token ++ ' ' :: time), (c :: more).dropWhile inside)
    else some (← bareValue? token, rest)
  | _, _ => some (← bareValue? token, rest)

/-- The items of an array up to its closing bracket. -/
def items (item : Reader Value) : Nat → List Char → Option (List Value × List Char)
  | 0, _ => none
  | fuel + 1, cs => do
    match ← skipTrivia false cs with
    | ']' :: rest => some ([], rest)
    | cs =>
      let (v, rest) ← item cs
      match ← skipTrivia false rest with
      | ',' :: rest =>
        let (vs, rest) ← items item fuel rest
        some (v :: vs, rest)
      | ']' :: rest => some ([v], rest)
      | _ => none

/-- Reads `keys = value`; `skip` passes over what may stand around the equals sign. -/
def assignment (skip : List Char → Option (List Char)) (item : Reader Value) (cs : List Char) :
    Option ((List String × String × Value) × List Char) := do
  let (keys, rest) ← dottedKey? depthLimit cs
  let (path, key) ← cutLast keys
  match ← skip rest with
  | '=' :: rest =>
    let (v, rest) ← item (← skip rest)
    some ((path, key, v), rest)
  | _ => none

/-- The pairs of an inline table up to its closing brace. A pair may go over several lines, its key
not. -/
def pairs (item : Reader Value) : Nat → Branches → List Char → Option (Branches × List Char)
  | 0, _, _ => none
  | fuel + 1, entries, cs => do
    match ← skipTrivia false cs with
    | '}' :: rest => some (entries, rest)
    | cs =>
      let ((path, key, v), rest) ← assignment (skipTrivia false) item cs
      let entries ← Branch.assign v key path entries
      match ← skipTrivia false rest with
      | ',' :: rest => pairs item fuel entries rest
      | '}' :: rest => some (entries, rest)
      | _ => none

/-- A value without brackets. -/
def plainValue : Reader Value := fun cs =>
  match cs with
  | '"' :: _ => (string? cs).map fun (text, rest) => (.string text, rest)
  | '\x27' :: _ => (string? cs).map fun (text, rest) => (.string text, rest)
  | _ => scalarToken? cs

/-- A value with brackets `depth` deep at most. -/
def value : Nat → Reader Value
  | 0, cs => plainValue cs
  | depth + 1, cs =>
    match cs with
    | '[' :: rest => (items (value depth) (rest.length + 1) rest).map fun (vs, rest) =>
        (.array vs, rest)
    | '{' :: rest => (pairs (value depth) (rest.length + 1) [] rest).map fun (entries, rest) =>
        (.table (Branch.toEntries entries), rest)
    | _ => plainValue cs

/-! ## Documents -/

/-- A header `[keys]` or `[[keys]]`, behind its first bracket. -/
def header (root : Branches) (cs : List Char) :
    Option ((List String × Branches) × List Char) := do
  let (array, cs) := match cs with
    | '[' :: rest => (true, rest)
    | _ => (false, cs)
  let (keys, rest) ← dottedKey? depthLimit cs
  let (path, key) ← cutLast keys
  match array, rest with
  | true, ']' :: ']' :: rest =>
    some ((keys, ← Branch.within (Branch.appendTable key) path root), rest)
  | false, ']' :: rest =>
    some ((keys, ← Branch.within (Branch.openTable key) path root), rest)
  | _, _ => none

/-- Reads the lines of a document one by one; `here` is the path of the last header. -/
def statements : Nat → List String → Branches → List Char → Option Branches
  | 0, _, _, _ => none
  | fuel + 1, here, root, cs => do
    match ← skipTrivia false cs with
    | [] => some root
    | '[' :: rest =>
      let ((here, root), rest) ← header root rest
      statements fuel here root (← lineEnd false rest)
    | cs =>
      let ((path, key, v), rest) ← assignment (some ∘ skipBlank) (value depthLimit) cs
      let root ← Branch.within (Branch.assign v key path) here root
      statements fuel here root (← lineEnd false rest)

/-- The table that a document describes. A byte order mark in front is passed over. -/
def parse? (text : String) : Option Table :=
  let cs := match text.toList with
    | '\ufeff' :: rest => rest
    | cs => cs
  (statements (cs.length + 1) [] [] cs).map Branch.toEntries

end PuzzleInputs.Toml
