import PuzzleInputs.Path

/-!
# The environment

The variables that a run looks at, and the places of the user's files that follow from them. Where
no home is set, it is the one that the account database names; an empty home is no home.
-/

namespace PuzzleInputs

structure Environment where
  home : Option String := none
  /-- The home directory of the user's account. -/
  accountHome : Option String := none
  configHome : Option String := none
  logFilter : Option String := none
  deriving DecidableEq, Repr

namespace Environment

def applicationName : String := "aocfetch"

/-- The directory that the text names. -/
def directory? : Option String → Option Path
  | none => none
  | some text => if text.isEmpty then none else some ⟨text⟩

/-- The home directory that is set, or else the one of the account. -/
def homeDirectory? (env : Environment) : Option Path :=
  (directory? env.home).or (directory? env.accountHome)

/-- The configured directory if it is absolute, else the one in the home directory. -/
def configDirectory? (env : Environment) : Option Path :=
  match env.configHome with
  | some text =>
    if (Path.mk text).isAbsolute then some ⟨text⟩ else env.homeDirectory?.map (·.child ".config")
  | none => env.homeDirectory?.map (·.child ".config")

/-- The file of the session cookie where none is named. -/
def sessionFile (env : Environment) : Path :=
  match env.configDirectory? with
  | some dir => (dir.child applicationName).child "session_cookie"
  | none => ⟨"session_cookie"⟩

/-- The places where a config file is looked for, in order. -/
def configFiles (env : Environment) : List Path :=
  let first := env.homeDirectory?.map fun home =>
    ((home.child ".config").child applicationName).child "config.toml"
  let second := env.configDirectory?.map fun dir =>
    (dir.child applicationName).child "config.toml"
  let second := second.filter fun path => !first.any (·.same path)
  let third := env.homeDirectory?.map fun home => home.child ("." ++ applicationName ++ ".toml")
  first.toList ++ second.toList ++ third.toList

end Environment

end PuzzleInputs
