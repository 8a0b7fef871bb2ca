import PuzzleInputs.Puzzle
import PuzzleInputs.Settings

/-!
# Downloading the inputs of a year

The days are taken in order up to the first one that is not released. Each day is requested until
it is answered, a failure is not worth another try, or the tries are used up; its input is written
before the next day is requested. The first failure ends the run, and what was written stays.
-/

namespace PuzzleInputs

/-- The outcome of a run. -/
structure Report where
  /-- The files written, in the order of their days. -/
  written : List Path
  /-- The first day that is not released. -/
  unreleased : Option Nat
  deriving DecidableEq, Repr

namespace Download

variable {m : Type → Type} [Monad m]

/-- Only an answer with status 200 has an input in it. -/
def accept (url : String) : Except Failure Response → Except Failure ByteArray
  | .error e => .error e
  | .ok response =>
    if response.status = 200 then .ok response.body else .error (.status url response.status)

/-- One try, after `attempt` others. -/
def ask (host : Host m) (transport : Transport m) (request : Request) (attempt : Nat) :
    m (Except Failure ByteArray) := do
  host.debug .download s!"GET {request.url} (attempt {attempt + 1})"
  return accept request.url (← transport request)

/-- Says that another try follows, and waits for it. -/
def pauseBefore (host : Host m) (o : Options) (e : Failure) (attempt : Nat) : m Unit := do
  host.log ⟨.warn, .download, s!"{e.message}; retrying ({attempt}/{o.retries})"⟩
  host.wait (o.backoff.backoff attempt)

/-- Requests an input after `attempt` tries, with so many left after this one. -/
def tryDay (host : Host m) (transport : Transport m) (o : Options) (request : Request)
    (attempt : Nat) : Nat → m (Except Failure ByteArray)
  | 0 => ask host transport request attempt
  | left + 1 => do
    match ← ask host transport request attempt with
    | .ok body => return .ok body
    | .error e =>
      if e.isRetryable then
        pauseBefore host o e (attempt + 1)
        tryDay host transport o request (attempt + 1) left
      else return .error e

def fetchDay (host : Host m) (transport : Transport m) (o : Options) (request : Request) :
    m (Except Failure ByteArray) :=
  tryDay host transport o request 0 o.retries

/-- Takes the days of the list in turn. -/
def fetchDays (host : Host m) (transport : Transport m) (o : Options) (credential : Credential)
    (today : Date) : List (Nat × Date) → m (Except Failure Report)
  | [] => return .ok ⟨[], none⟩
  | (day, release) :: rest => do
    if today < release then
      host.debug .download
        s!"day {day} unlocks on {release.text}, today is {today.text}; stopping"
      return .ok ⟨[], some day⟩
    else
      let request :=
        { url := Puzzle.address o.baseUrl o.year day, token := credential.token,
          userAgent := o.userAgent }
      unless o.quiet do
        host.print s!"Getting input for {day}/{Puzzle.month}/{o.year}..."
      match ← fetchDay host transport o request with
      | .error e => return .error e
      | .ok body =>
        let path := o.outputDir.child (Puzzle.fileName day)
        match ← host.write path body with
        | .error cause => return .error (.write path cause)
        | .ok () =>
          host.debug .download s!"wrote {path.text}"
          match ← fetchDays host transport o credential today rest with
          | .error e => return .error e
          | .ok report => return .ok { report with written := path :: report.written }

/-- Downloads the inputs of all released days. The output directory is created once a day is
released. -/
def fetchInputs (host : Host m) (transport : Transport m) (o : Options) (credential : Credential)
    (today : Date) : m (Except Failure Report) := do
  match Puzzle.schedule o.year with
  | .error e => return .error e
  | .ok schedule =>
    if schedule.head?.any fun (_, release) => release ≤ today then
      match ← host.makeDirectories o.outputDir with
      | .error cause => return .error (.outputDirectory o.outputDir cause)
      | .ok () => fetchDays host transport o credential today schedule
    else fetchDays host transport o credential today schedule

end Download

end PuzzleInputs
