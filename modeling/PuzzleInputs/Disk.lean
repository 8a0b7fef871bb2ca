import PuzzleInputs.IoFault
import PuzzleInputs.Path

/-!
# The disk

A disk without links: what stands at each location, and the working directory from which relative
paths start. The root is always a directory. `read`, `makeDirectory` and `write` are the system
calls, with their faults; `makeDirectories` creates a path together with the directories above it.
A write can only fail to open its file, and then nothing is changed.

New entries are added at the end and written files keep their place, so that two ways to the same
files give equal disks.
-/

namespace PuzzleInputs

/-- The names that lead from the root to an entry. -/
abbrev Location := List String

inductive Node where
  | directory
  | file (bytes : ByteArray)

structure Disk where
  workingDirectory : Location
  entries : List (Location × Node)

namespace Disk

def node? (d : Disk) (loc : Location) : Option Node :=
  if loc = [] then some .directory else d.entries.lookup loc

/-- Puts `node` at `loc`: in place of what stood there, or at the end. -/
def put (loc : Location) (node : Node) : List (Location × Node) → List (Location × Node)
  | [] => [(loc, node)]
  | (l, n) :: rest => if l = loc then (loc, node) :: rest else (l, n) :: put loc node rest

def insert (d : Disk) (loc : Location) (node : Node) : Disk :=
  { d with entries := put loc node d.entries }

theorem lookup_put (loc l : Location) (node : Node) (es : List (Location × Node)) :
    (put loc node es).lookup l = if l = loc then some node else es.lookup l := by
  induction es with
  | nil =>
    by_cases h : l = loc
    · simp [put, h]
    · have hb : (l == loc) = false := by simpa using h
      simp [put, List.lookup_cons, hb, h]
  | cons e rest ih =>
    obtain ⟨k, n⟩ := e
    by_cases hk : k = loc
    · subst hk
      by_cases h : l = k
      · simp [put, h]
      · have hb : (l == k) = false := by simpa using h
        simp [put, h, List.lookup_cons, hb]
    · by_cases h : l = k
      · subst h
        simp [put, hk]
      · have hb : (l == k) = false := by simpa using h
        simp [put, hk, List.lookup_cons, hb, ih]

/-- What stands at a location after an insertion. -/
theorem node?_insert (d : Disk) (loc l : Location) (node : Node) :
    (d.insert loc node).node? l =
      if l = [] then some .directory else if l = loc then some node else d.node? l := by
  by_cases h : l = [] <;> simp [node?, insert, lookup_put, h]

/-! ## Walking a path -/

/-- One step of a walk: only a directory can be entered. -/
def step (d : Disk) (loc : Location) (name : String) : Except IoFault Location :=
  match d.node? loc with
  | none => .error .noSuchFile
  | some (.file _) => .error .notADirectory
  | some .directory =>
    if name = "." then .ok loc
    else if name = ".." then .ok loc.dropLast
    else if name.utf8ByteSize > 255 then .error .nameTooLong
    else .ok (loc ++ [name])

def walk (d : Disk) (loc : Location) : List String → Except IoFault Location
  | [] => .ok loc
  | name :: rest =>
    match d.step loc name with
    | .ok next => d.walk next rest
    | .error e => .error e

/-- Where the walk along a path begins. -/
def start (d : Disk) (p : Path) : Location := if p.isAbsolute then [] else d.workingDirectory

/-- The faults of a path as a text. -/
def checkText (p : Path) : Except IoFault Unit :=
  if p.text.toList.contains '\x00' then .error .nulInPath
  else if p.text.utf8ByteSize ≥ 4096 then .error .nameTooLong
  else if p.text.isEmpty then .error .noSuchFile
  else .ok ()

/-- The location that a path leads to. A trailing slash asks for a directory. -/
def locate (d : Disk) (p : Path) : Except IoFault Location := do
  checkText p
  let loc ← d.walk (d.start p) p.segments
  if p.endsInSlash then d.step loc "." else .ok loc

/-- The location that a path's last name has in its directory, whether or not something stands
there; nothing for the root and for a path that ends in `.` or `..`. -/
def locateEntry (d : Disk) (p : Path) : Except IoFault (Option Location) := do
  checkText p
  match p.segments.getLast? with
  | none => .ok none
  | some last =>
    let dir ← d.walk (d.start p) p.segments.dropLast
    let loc ← d.step dir last
    .ok (if last = "." ∨ last = ".." then none else some loc)

/-! ## System calls -/

def isDirectory (d : Disk) (p : Path) : Bool :=
  match d.locate p with
  | .error _ => false
  | .ok loc =>
    match d.node? loc with
    | some .directory => true
    | _ => false

def read (d : Disk) (p : Path) : Except IoFault ByteArray := do
  match d.node? (← d.locate p) with
  | none => .error .noSuchFile
  | some .directory => .error .isADirectory
  | some (.file bytes) => .ok bytes

def makeDirectory (d : Disk) (p : Path) : Except IoFault Disk := do
  match ← d.locateEntry p with
  | none => .error .fileExists
  | some loc =>
    match d.node? loc with
    | some _ => .error .fileExists
    | none => .ok (d.insert loc .directory)

/-- Makes `bytes` the whole content of the file, which need not exist before. -/
def write (d : Disk) (p : Path) (bytes : ByteArray) : Except IoFault Disk := do
  match ← d.locateEntry p with
  | none => .error .isADirectory
  | some loc =>
    if p.endsInSlash then .error .isADirectory
    else
      match d.node? loc with
      | some .directory => .error .isADirectory
      | _ => .ok (d.insert loc (.file bytes))

/-! ## Directories with all above them -/

/-- Tries the paths in turn, innermost first, until one of them is a directory. Gives the paths
that still miss their own directory. -/
def climb (d : Disk) : List Path → Except IoFault (Disk × List Path)
  | [] => .ok (d, [])
  | p :: above =>
    match d.makeDirectory p with
    | .ok d' => .ok (d', [])
    | .error e =>
      if e = .noSuchFile then (d.climb above).map fun (d', missing) => (d', p :: missing)
      else if e = .fileExists ∧ d.isDirectory p then .ok (d, [])
      else .error e

/-- Creates the directories in turn, outermost first. One that stands already is passed over. -/
def descend (d : Disk) : List Path → Except IoFault Unit × Disk
  | [] => (.ok (), d)
  | p :: rest =>
    match d.makeDirectory p with
    | .ok d' => d'.descend rest
    | .error e =>
      if e = .fileExists ∧ d.isDirectory p then d.descend rest else (.error e, d)

/-- Creates the directory and those above it that are missing. What was created before a fault
stays. -/
def makeDirectories (d : Disk) (p : Path) : Except IoFault Unit × Disk :=
  if p.components.isEmpty then (.ok (), d)
  else
    match d.climb (p :: p.parents) with
    | .error e => (.error e, d)
    | .ok (d', missing) => d'.descend missing.reverse

end Disk

end PuzzleInputs
