import PuzzleInputs.Download
import PuzzleInputs.Zone

/-!
# The program

`run` checks the zone, then the credential, then downloads. `execute` is the whole program: it loads
the config, reads the command line, runs, and tells the user how it went. Its result is the exit
code.
-/

namespace PuzzleInputs.Program

variable {m : Type → Type} [Monad m]

/-- Runs with arguments that the config has already filled up. -/
def run (host : Host m) (transport : Transport m) (env : Environment) (config : Config)
    (args : Arguments) : m (Except Failure Report) := do
  match Zone.parse args.timezone with
  | .error e => return .error e
  | .ok zone =>
    match ← Credential.load host config.accounts (args.credentialSource env) with
    | .error e => return .error e
    | .ok credential =>
      let o := Options.ofArguments args
      host.debug .session
        s!"fetching {o.year} into {o.outputDir.text} (timezone {zone.describe})"
      Download.fetchInputs host transport o credential ((← host.clock).today zone)

/-- What the user is told after a run; the number is the exit code. -/
def conclude (host : Host m) (args : Arguments) : Except Failure Report → m Nat
  | .error e => do
    host.complain e.message
    return 1
  | .ok report => do
    unless args.quiet do
      host.print s!"Fetched {report.written.length} input(s) for {args.year}"
      if let some day := report.unreleased then
        host.print s!"Day {day} of {args.year} is not available yet"
    return 0

/-- What is shown in place of a run; help and version go where a run's own lines go. -/
def explain (host : Host m) (usage : CommandLine.Usage) : m Nat := do
  match usage with
  | .notice _ => host.print usage.message
  | _ => host.complain usage.message
  return usage.exitCode

/-- A line for each file that could not be used. What the reader has to say about the file, which
would follow its path, is left out. -/
def warnRejected (host : Host m) : List Path → m Unit
  | [] => return ()
  | path :: rest => do
    host.complain s!"Warning: Failed to parse {path.text}"
    warnRejected host rest

def execute (host : Host m) (transport : Transport m) (env : Environment)
    (tokens : List String) : m Nat := do
  let loaded ← Config.load host env.configFiles
  warnRejected host loaded.rejected
  match CommandLine.read tokens with
  | .error usage => explain host usage
  | .ok args =>
    let args := args.withConfig loaded.config
    let host := host.withFilter (Log.Filter.choose env.logFilter args.verbose)
    if let some path := loaded.config.loadedFrom then
      host.debug .program s!"loaded config from {path.text}"
    conclude host args (← run host transport env loaded.config args)

end PuzzleInputs.Program
