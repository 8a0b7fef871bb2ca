import PuzzleInputs.CommandLine.Reader
import PuzzleInputs.Config
import PuzzleInputs.Credential
import PuzzleInputs.Environment

/-!
# Settings of a run

What the command line leaves open is taken from the config, and what both leave open has a built-in
value. A credential named on the command line rules out both credentials of the config.
-/

namespace PuzzleInputs

namespace Arguments

/-- The arguments with their gaps filled from the config. -/
def withConfig (args : Arguments) (config : Config) : Arguments :=
  let named := args.sessionFile.isSome || args.account.isSome
  { args with
    verbose := args.verbose || config.verbose
    account := if named then args.account else config.account
    sessionFile :=
      if named then args.sessionFile
      else if config.account.isSome then none
      else config.sessionFile
    outputDir := args.outputDir <|> config.outputDir
    timezone := args.timezone <|> config.timezone
    baseUrl := args.baseUrl <|> config.baseUrl
    userAgent := args.userAgent <|> config.userAgent
    retries := args.retries <|> config.retries }

/-- The source of the credential: an account, else a named file, else the usual file. -/
def credentialSource (args : Arguments) (env : Environment) : Credential.Source :=
  match args.account with
  | some label => .account label
  | none => .file (args.sessionFile.getD env.sessionFile)

end Arguments

/-- What the download of a year needs to know. -/
structure Options where
  year : Int
  baseUrl : String
  userAgent : String
  outputDir : Path
  /-- Further tries per day after a failure that is worth one. -/
  retries : Nat
  backoff : Pause
  quiet : Bool
  deriving DecidableEq, Repr

namespace Options

def defaultBaseUrl : String := "https://adventofcode.com"
def defaultUserAgent : String := "aocfetch"
def defaultBackoff : Pause := { seconds := 0, nanos := 250000000 }

def ofArguments (args : Arguments) : Options where
  year := args.year
  baseUrl := args.baseUrl.getD defaultBaseUrl
  userAgent := args.userAgent.getD defaultUserAgent
  outputDir := args.outputDir.getD ⟨"."⟩
  retries := args.retries.getD 0
  backoff := defaultBackoff
  quiet := args.quiet

end Options

end PuzzleInputs
