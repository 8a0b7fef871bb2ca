import PuzzleInputs.Text.Trim

/-!
# Paths

A path is kept as written. `segments` are the names between its slashes, as the file system walks
them; `components` leave out every `.` but a leading one, and two paths with equal components are
the same path.
-/

namespace PuzzleInputs

structure Path where
  text : String
  deriving DecidableEq, Repr

namespace Path

def isAbsolute (p : Path) : Bool := p.text.toList.head? == some '/'

def endsInSlash (p : Path) : Bool := p.text.toList.getLast? == some '/'

/-- The entry `name` of the directory `dir`. -/
def child (dir : Path) (name : String) : Path :=
  if dir.text.isEmpty || dir.endsInSlash then ⟨dir.text ++ name⟩ else ⟨dir.text ++ "/" ++ name⟩

def segments (p : Path) : List String :=
  ((pieces '/' p.text.toList).filter (!·.isEmpty)).map String.ofList

def components (p : Path) : List String :=
  match p.segments with
  | [] => []
  | first :: rest =>
    let rest := rest.filter (· != ".")
    if first == "." && p.isAbsolute then rest else first :: rest

/-- Repeated and trailing slashes, and each `.` but a leading one, do not matter. -/
def same (p q : Path) : Bool :=
  p.isAbsolute == q.isAbsolute && p.components == q.components

def ofComponents (absolute : Bool) (names : List String) : Path :=
  ⟨(if absolute then "/" else "") ++ "/".intercalate names⟩

/-- The non-empty proper prefixes of a list, longest first. -/
def properPrefixes (names : List String) : List (List String) :=
  ((List.range names.length).drop 1).reverse.map names.take

/-- The paths of the directories that hold `p`, innermost first; neither the root nor the working
directory is among them. -/
def parents (p : Path) : List Path :=
  (properPrefixes p.components).map (ofComponents p.isAbsolute)

end Path

end PuzzleInputs
