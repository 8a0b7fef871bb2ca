import PuzzleInputs.Host
import PuzzleInputs.Toml.Reader
import PuzzleInputs.Word

/-!
# Config files

A config file is a TOML document. `Config.ofTable` takes the known keys of its table, each with the
type it must have, and passes over all others. `Config.load` takes the first of several files that
can be used, and remembers those it could read and not use.
-/

namespace PuzzleInputs

structure Config where
  sessionFile : Option Path := none
  account : Option String := none
  outputDir : Option Path := none
  timezone : Option String := none
  baseUrl : Option String := none
  userAgent : Option String := none
  retries : Option Nat := none
  verbose : Bool := false
  /-- Session tokens by label. -/
  accounts : List (String × String) := []
  loadedFrom : Option Path := none
  deriving DecidableEq, Repr

namespace Config

open Toml (Table Value)

/-- The value of an optional key, which must have the type that `read` reads. -/
def field {α : Type} (read : Value → Option α) (table : Table) (key : String) :
    Option (Option α) :=
  match table.lookup key with
  | none => some none
  | some v => (read v).map some

def asString : Value → Option String
  | .string text => some text
  | _ => none

def asBoolean : Value → Option Bool
  | .boolean b => some b
  | _ => none

/-- A count that fits in 64 bits. -/
def asCount : Value → Option Nat
  | .integer n => if 0 ≤ n ∧ n ≤ Word.max64 then some n.toNat else none
  | _ => none

/-- A table of strings. A date-time reads as a table with its text as the only entry. -/
def asStrings : Value → Option (List (String × String))
  | .table entries => entries.mapM fun (key, v) => (asString v).map (key, ·)
  | .dateTime d => some [("$__toml_private_datetime", d.text)]
  | _ => none

/-- The config that a table describes. One key of a wrong type spoils all. -/
def ofTable (path : Path) (table : Table) : Option Config := do
  let sessionFile ← field asString table "session_file"
  let account ← field asString table "account"
  let outputDir ← field asString table "output_dir"
  let timezone ← field asString table "timezone"
  let baseUrl ← field asString table "base_url"
  let userAgent ← field asString table "user_agent"
  let retries ← field asCount table "retries"
  let verbose ← field asBoolean table "verbose"
  let accounts ← field asStrings table "accounts"
  some
    { sessionFile := sessionFile.map Path.mk
      account
      outputDir := outputDir.map Path.mk
      timezone
      baseUrl
      userAgent
      retries
      verbose := verbose.getD false
      accounts := accounts.getD []
      loadedFrom := some path }

def parse? (path : Path) (text : String) : Option Config :=
  (Toml.parse? text).bind (ofTable path)

/-- A config, and the files that were read before it and could not be used. -/
structure Loaded where
  config : Config
  rejected : List Path
  deriving DecidableEq, Repr

/-- The first usable file. A file that cannot be read as text is passed over. -/
def load {m : Type → Type} [Monad m] (host : Host m) : List Path → m Loaded
  | [] => return ⟨{}, []⟩
  | path :: rest => do
    match ← host.readText path with
    | .error _ => load host rest
    | .ok text =>
      match parse? path text with
      | some config => return ⟨config, []⟩
      | none => do
        let later ← load host rest
        return { later with rejected := path :: later.rejected }

end Config

end PuzzleInputs
