import PuzzleInputs.Host

/-!
# Session credentials

A token is the first line of a cookie file, or is listed under a label among the accounts of the
config. It is never empty, and never shown.
-/

namespace PuzzleInputs

structure Credential where
  token : String
  deriving DecidableEq

namespace Credential

/-- What diagnostics show of a credential. -/
def describe (_ : Credential) : String := "Credential(<redacted>)"

/-- The text before the first line feed. A carriage return directly before it is dropped, one only;
without a line feed the text is taken whole. -/
def firstLine (text : List Char) : List Char :=
  match cutAt '\n' text with
  | (line, none) => line
  | (line, some _) => if line.getLast? = some '\r' then line.dropLast else line

def ofFile (path : Path) (text : String) : Except Failure Credential :=
  match firstLine text.toList with
  | [] => .error (.credentialEmpty path)
  | line => .ok ⟨String.ofList line⟩

def isLineEnd (c : Char) : Bool := c == '\r' || c == '\n'

/-- Line ends after the token of an account do not count. -/
def ofAccount (label token : String) : Except Failure Credential :=
  match dropTrailing isLineEnd token.toList with
  | [] => .error (.accountEmpty label)
  | kept => .ok ⟨String.ofList kept⟩

/-- Where a credential comes from. -/
inductive Source where
  | file (path : Path)
  | account (label : String)
  deriving DecidableEq, Repr

def load {m : Type → Type} [Monad m] (host : Host m) (accounts : List (String × String)) :
    Source → m (Except Failure Credential)
  | .file path => do
    host.debug .credential s!"reading session cookie from {path.text}"
    match ← host.readText path with
    | .error cause => return .error (.credentialUnreadable path cause)
    | .ok text => return ofFile path text
  | .account label => do
    host.debug .credential s!"using session cookie of account \"{label}\""
    match accounts.lookup label with
    | none => return .error (.accountUnknown label)
    | some token => return ofAccount label token

end Credential

end PuzzleInputs
