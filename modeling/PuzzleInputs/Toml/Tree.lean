import PuzzleInputs.Toml.Value

/-!
# Tables under construction

While a document is read, a table remembers how it came to be: by a header of its own, as a table
that other headers pass through (`implicit`), or by dotted keys. The rules on what may be added
where look at that, and are all in `Branch.assign`, `Branch.openTable` and `Branch.appendTable`.
-/

namespace PuzzleInputs.Toml

/-- How a table came to be. -/
inductive Origin where
  | header
  | implicit
  | dotted
  deriving DecidableEq, Repr

inductive Branch where
  | leaf (v : Value)
  | table (origin : Origin) (entries : List (String × Branch))
  /-- The tables of an array, the one last opened first. -/
  | tables (elements : List (List (String × Branch)))

abbrev Branches := List (String × Branch)

mutual

def Branch.toValue : Branch → Value
  | .leaf v => v
  | .table _ entries => .table (Branch.toEntries entries)
  | .tables elements => .array (Branch.toArray elements).reverse

def Branch.toEntries : List (String × Branch) → Table
  | [] => []
  | (key, b) :: rest => (key, b.toValue) :: Branch.toEntries rest

def Branch.toArray : List (List (String × Branch)) → List Value
  | [] => []
  | entries :: rest => .table (Branch.toEntries entries) :: Branch.toArray rest

end

namespace Branch

/-- Puts `b` under `key`: in place of what stood there, or at the end. -/
def put (key : String) (b : Branch) : Branches → Branches
  | [] => [(key, b)]
  | (k, old) :: rest => if k = key then (key, b) :: rest else (k, old) :: put key b rest

/-- Gives the key `keys.key` the value `v`. Tables on the way are created, or have no header of
their own; the one that gets the key counts as made by dotted keys from then on. Of an array of
tables the last one is meant: a key can go through it, not into it. -/
def assign (v : Value) (key : String) : List String → Branches → Option Branches
  | [], entries =>
    if (entries.lookup key).isSome then none else some (entries ++ [(key, .leaf v)])
  | next :: keys, entries =>
    match entries.lookup next with
    | none => do some (entries ++ [(next, .table .dotted (← assign v key keys []))])
    | some (.table origin inner) =>
      if origin = .header then none
      else do
        let origin := if keys = [] then .dotted else origin
        some (put next (.table origin (← assign v key keys inner)) entries)
    | some (.tables (last :: before)) =>
      if keys = [] then none
      else do some (put next (.tables ((← assign v key keys last) :: before)) entries)
    | some _ => none

/-- Changes the table at a path of keys. Tables on the way are created; of an array of tables the
last one is meant. -/
def within (change : Branches → Option Branches) : List String → Branches → Option Branches
  | [], entries => change entries
  | key :: keys, entries =>
    match entries.lookup key with
    | none => do some (entries ++ [(key, .table .implicit (← within change keys []))])
    | some (.table origin inner) => do
      some (put key (.table origin (← within change keys inner)) entries)
    | some (.tables (last :: before)) => do
      some (put key (.tables ((← within change keys last) :: before)) entries)
    | some _ => none

/-- The header `[key]`: a new table, or one that headers have only passed through. -/
def openTable (key : String) (entries : Branches) : Option Branches :=
  match entries.lookup key with
  | none => some (entries ++ [(key, .table .header [])])
  | some (.table .implicit inner) => some (put key (.table .header inner) entries)
  | some _ => none

/-- The header `[[key]]`: one more table of an array of tables. -/
def appendTable (key : String) (entries : Branches) : Option Branches :=
  match entries.lookup key with
  | none => some (entries ++ [(key, .tables [[]])])
  | some (.tables elements) => some (put key (.tables ([] :: elements)) entries)
  | some _ => none

end Branch

end PuzzleInputs.Toml
