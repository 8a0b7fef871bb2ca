import PuzzleInputs.Path
import PuzzleInputs.Text.Decimal

/-!
# What a command line can say

Options with a value (`Valued`), switches, and the two notices that end a run at once. A `Setting`
is one completed item of a command line, and `Setting.key` says which one it is.
-/

namespace PuzzleInputs.CommandLine

inductive Valued where
  | sessionFile
  | account
  | outputDir
  | timezone
  | baseUrl
  | userAgent
  | retries
  deriving DecidableEq, Repr

inductive Switch where
  | verbose
  | quiet
  deriving DecidableEq, Repr

inductive Notice where
  | help
  | version
  deriving DecidableEq, Repr

namespace Valued

def all : List Valued :=
  [.sessionFile, .account, .outputDir, .timezone, .baseUrl, .userAgent, .retries]

def name : Valued → String
  | .sessionFile => "session-file"
  | .account => "account"
  | .outputDir => "output-dir"
  | .timezone => "timezone"
  | .baseUrl => "base-url"
  | .userAgent => "user-agent"
  | .retries => "retries"

def placeholder : Valued → String
  | .sessionFile => "PATH"
  | .account => "LABEL"
  | .outputDir => "DIR"
  | .timezone => "TZ"
  | .baseUrl => "URL"
  | .userAgent => "UA"
  | .retries => "N"

/-- The option as messages show it. -/
def shown (o : Valued) : String := "--" ++ o.name ++ " <" ++ o.placeholder ++ ">"

end Valued

def Switch.name : Switch → String
  | .verbose => "verbose"
  | .quiet => "quiet"

def Notice.name : Notice → String
  | .help => "help"
  | .version => "version"

/-- What a name with dashes stands for. -/
inductive Dashed where
  | valued (o : Valued)
  | switch (f : Switch)
  | notice (n : Notice)
  deriving DecidableEq, Repr

namespace Dashed

def name : Dashed → String
  | .valued o => o.name
  | .switch f => f.name
  | .notice n => n.name

def all : List Dashed :=
  Valued.all.map .valued ++
    [.switch .verbose, .switch .quiet, .notice .help, .notice .version]

def ofName? (name : String) : Option Dashed := all.find? (·.name == name)

def ofLetter? : Char → Option Dashed
  | 'o' => some (.valued .outputDir)
  | 'v' => some (.switch .verbose)
  | 'q' => some (.switch .quiet)
  | 'h' => some (.notice .help)
  | 'V' => some (.notice .version)
  | _ => none

end Dashed

inductive Key where
  | year
  | valued (o : Valued)
  | switch (f : Switch)
  deriving DecidableEq, Repr

/-- The item as messages show it. -/
def Key.shown : Key → String
  | .year => "<YEAR>"
  | .valued o => o.shown
  | .switch f => "--" ++ f.name

/-- A completed item of a command line. -/
inductive Setting where
  | year (n : Int)
  | sessionFile (path : Path)
  | account (label : String)
  | outputDir (path : Path)
  | timezone (text : String)
  | baseUrl (url : String)
  | userAgent (text : String)
  | retries (n : Nat)
  | switch (f : Switch)
  deriving DecidableEq, Repr

def Setting.key : Setting → Key
  | .year _ => .year
  | .sessionFile _ => .valued .sessionFile
  | .account _ => .valued .account
  | .outputDir _ => .valued .outputDir
  | .timezone _ => .valued .timezone
  | .baseUrl _ => .valued .baseUrl
  | .userAgent _ => .valued .userAgent
  | .retries _ => .valued .retries
  | .switch f => .switch f

end PuzzleInputs.CommandLine
