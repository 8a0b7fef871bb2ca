import PuzzleInputs.CommandLine.Reader

/-!
# Writing a command line

The items of a command line can be written in several ways and in any order. `Group.tokens` are the
tokens of one item in one spelling. A negative year looks like an option, so it stands last, behind
`--`.
-/

namespace PuzzleInputs

namespace CommandLine

/-- How an item is written: `--name=value`, `--name value`, or by its letter. -/
inductive Style where
  | attached
  | detached
  | letter
  deriving DecidableEq, Repr

/-- An item of a command line in one spelling. -/
structure Group where
  setting : Setting
  style : Style
  deriving DecidableEq, Repr

/-- The option and the text of its value. -/
def Setting.value? : Setting → Option (Valued × String)
  | .sessionFile p => some (.sessionFile, p.text)
  | .account label => some (.account, label)
  | .outputDir p => some (.outputDir, p.text)
  | .timezone text => some (.timezone, text)
  | .baseUrl url => some (.baseUrl, url)
  | .userAgent text => some (.userAgent, text)
  | .retries n => some (.retries, toString n)
  | .year _ => none
  | .switch _ => none

def Switch.letter : Switch → String
  | .verbose => "-v"
  | .quiet => "-q"

/-- Whether a token of its own can hold the value: it is not taken for an option. -/
def isDetachable (text : String) : Bool :=
  text == "-" || (!text.isEmpty && text.toList.head? != some '-')

namespace Group

/-- A value in a token of its own must not look like an option, and only the output directory has a
letter among the options. -/
def allowed (g : Group) : Bool :=
  match g.setting.value?, g.style with
  | none, _ => true
  | some _, .attached => true
  | some (_, text), .detached => isDetachable text
  | some (o, text), .letter => o == .outputDir && isDetachable text

def tokens (g : Group) : List String :=
  match g.setting, g.style with
  | .year n, _ => if n < 0 then ["--", toString n] else [toString n]
  | .switch f, .letter => [f.letter]
  | .switch f, _ => ["--" ++ f.name]
  | setting, style =>
    match setting.value?, style with
    | some (o, text), .attached => ["--" ++ o.name ++ "=" ++ text]
    | some (o, text), .detached => ["--" ++ o.name, text]
    | some (_, text), .letter => ["-o", text]
    | none, _ => []

end Group

end CommandLine

/-- The items that make up the arguments. -/
def Arguments.settings (a : Arguments) : List CommandLine.Setting :=
  [.year a.year] ++
    (a.sessionFile.map .sessionFile).toList ++ (a.account.map .account).toList ++
    (a.outputDir.map .outputDir).toList ++ (a.timezone.map .timezone).toList ++
    (a.baseUrl.map .baseUrl).toList ++ (a.userAgent.map .userAgent).toList ++
    (a.retries.map .retries).toList ++ (if a.verbose then [.switch .verbose] else []) ++
    (if a.quiet then [.switch .quiet] else [])

end PuzzleInputs
