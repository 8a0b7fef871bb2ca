import PuzzleInputs.IoFault
import PuzzleInputs.Path

/-!
# Failures

Every way in which a run can fail, with the sentence that tells the user. Only failures of the
network or of the server are worth another try.
-/

namespace PuzzleInputs

inductive Failure where
  | credentialUnreadable (path : Path) (cause : IoFault)
  | credentialEmpty (path : Path)
  | accountUnknown (label : String)
  | accountEmpty (label : String)
  | yearInvalid (year : Int) (day : Nat)
  | zoneUnknown (input : String)
  | outputDirectory (path : Path) (cause : IoFault)
  | status (url : String) (code : Nat)
  | transport (url : String) (reason : String)
  | body (url : String) (reason : String)
  | write (path : Path) (cause : IoFault)
  deriving DecidableEq, Repr

namespace Failure

def message : Failure → String
  | .credentialUnreadable path cause =>
    s!"Could not read session cookie from {path.text}: {cause.message}"
  | .credentialEmpty path => s!"Session cookie file {path.text} is empty"
  | .accountUnknown label =>
    s!"Unknown account \"{label}\" (not listed under [accounts] in config)"
  | .accountEmpty label => s!"Session cookie of account \"{label}\" is empty"
  | .yearInvalid year day => s!"Invalid year {year}: December {day} is not a valid date"
  | .zoneUnknown input => s!"Invalid timezone: {input}"
  | .outputDirectory path cause =>
    s!"Could not create output directory {path.text}: {cause.message}"
  | .status url code => s!"Could not get puzzle input with url \"{url}\" (HTTP {code})"
  | .transport url reason => s!"Could not get puzzle input with url \"{url}\": {reason}"
  | .body url reason => s!"Could not read response body from \"{url}\": {reason}"
  | .write path cause => s!"Could not write {path.text}: {cause.message}"

def isRetryable : Failure → Bool
  | .transport _ _ => true
  | .body _ _ => true
  | .status _ code => 500 ≤ code
  | _ => false

end Failure

end PuzzleInputs
