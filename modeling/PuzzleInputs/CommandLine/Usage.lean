import PuzzleInputs.CommandLine.Key

/-!
# Usage messages

The reasons why a command line is not run, and what is shown for each. Help and version are shown
in place of a run and count as success.
-/

namespace PuzzleInputs.CommandLine

inductive Usage where
  | notice (n : Notice)
  | missingYear
  | unknownArgument (shown : String)
  | missingValue (o : Valued)
  | invalidValue (key : Key) (text reason : String)
  | repeated (key : Key)
  | conflict (first second : Valued)
  | unexpectedValue (name text : String)
  deriving DecidableEq, Repr

def versionText : String := "aocfetch 0.1.0"

def helpText : String := "\n".intercalate [
  "Download Advent of Code puzzle inputs for a year",
  "",
  "Usage: aocfetch [OPTIONS] <YEAR>",
  "",
  "Arguments:",
  "  <YEAR>  Event year to download inputs for (e.g. 2019)",
  "",
  "Options:",
  "      --session-file <PATH>  File whose first line is the session cookie",
  "      --account <LABEL>      Use a named session cookie from the [accounts] table of the config file",
  "  -o, --output-dir <DIR>     Directory to write input_DD files into (default: current directory)",
  "      --timezone <TZ>        Timezone used to decide which days are released (\"local\", \"UTC\", \"America/New_York\")",
  "      --base-url <URL>       Event host to download from",
  "      --user-agent <UA>      Value of the User-Agent header",
  "      --retries <N>          Retry a day this many times on network or server errors",
  "  -v, --verbose              Enable debug output on stderr",
  "  -q, --quiet                Do not print progress lines",
  "  -h, --help                 Print help",
  "  -V, --version              Print version"]

namespace Usage

def message : Usage → String
  | .notice .help => helpText
  | .notice .version => versionText
  | .missingYear => "error: the following required arguments were not provided:\n  <YEAR>"
  | .unknownArgument shown => s!"error: unexpected argument '{shown}' found"
  | .missingValue o => s!"error: a value is required for '{o.shown}' but none was supplied"
  | .invalidValue key text reason => s!"error: invalid value '{text}' for '{key.shown}': {reason}"
  | .repeated key => s!"error: the argument '{key.shown}' cannot be used multiple times"
  | .conflict first second =>
    s!"error: the argument '{first.shown}' cannot be used with '{second.shown}'"
  | .unexpectedValue name text =>
    s!"error: unexpected value '{text}' for '--{name}' found; no more were expected"

def exitCode : Usage → Nat
  | .notice _ => 0
  | _ => 2

end Usage

end PuzzleInputs.CommandLine
