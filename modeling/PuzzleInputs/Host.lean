import PuzzleInputs.Clock
import PuzzleInputs.Failure
import PuzzleInputs.Log
import PuzzleInputs.Pause

/-!
# What a run asks of its surroundings

A `Host` is the machine under a run: its files, its console, its clock. A `Transport` gets one
input. Both are over a monad, so that the same run can be carried out by a real machine or by a
`Machine`, which is a plain value.
-/

namespace PuzzleInputs

structure Host (m : Type → Type) where
  read : Path → m (Except IoFault ByteArray)
  makeDirectories : Path → m (Except IoFault Unit)
  write : Path → ByteArray → m (Except IoFault Unit)
  /-- A line for the user. -/
  print : String → m Unit
  /-- A line of warnings or errors. -/
  complain : String → m Unit
  log : Log.Entry → m Unit
  wait : Pause → m Unit
  clock : m Clock

namespace Host

/-- The file as text. -/
def readText {m : Type → Type} [Monad m] (host : Host m) (path : Path) :
    m (Except IoFault String) := do
  match ← host.read path with
  | .error e => return .error e
  | .ok bytes =>
    match String.fromUTF8? bytes with
    | some text => return .ok text
    | none => return .error .invalidUtf8

def debug {m : Type → Type} (host : Host m) (origin : Log.Origin) (message : String) : m Unit :=
  host.log ⟨.debug, origin, message⟩

/-- The host with its log shown among the complaints, as far as the filter lets it through. -/
def withFilter {m : Type → Type} [Monad m] (host : Host m) (filter : Log.Filter) : Host m :=
  { host with log := fun e => if filter.shows e then host.complain e.shownLine else pure () }

end Host

/-- A request for an input. -/
structure Request where
  url : String
  token : String
  userAgent : String
  deriving DecidableEq, Repr

/-- The answer to a request. -/
structure Response where
  status : Nat
  body : ByteArray

abbrev Transport (m : Type → Type) := Request → m (Except Failure Response)

end PuzzleInputs
