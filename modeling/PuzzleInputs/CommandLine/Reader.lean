import PuzzleInputs.CommandLine.Usage
import PuzzleInputs.Word

/-!
# Reading a command line

Tokens are taken from left to right, and the first fault ends the reading. A switch and an attached
value (`--name=value`, `-ovalue`) are completed at once. The year and a value in a token of its own
stay pending until the next known option, a year after such a value, or the end. Completing an item
first asks whether it was given before, then whether its value is good.
-/

namespace PuzzleInputs

/-- A command line that can be run. -/
structure Arguments where
  year : Int
  sessionFile : Option Path := none
  account : Option String := none
  outputDir : Option Path := none
  timezone : Option String := none
  baseUrl : Option String := none
  userAgent : Option String := none
  retries : Option Nat := none
  verbose : Bool := false
  quiet : Bool := false
  deriving DecidableEq, Repr

namespace CommandLine

/-! ## Values -/

def minYear : Int := -2147483648
def maxYear : Int := 2147483647

/-- A year is read as a 64-bit number before its range is looked at. -/
def readYear (text : String) : Except Usage Setting :=
  match Decimal.readInt Word.maxSigned64 text with
  | .error fault => .error (.invalidValue .year text fault.message)
  | .ok n =>
    if minYear ≤ n ∧ n ≤ maxYear then .ok (.year n)
    else .error (.invalidValue .year text s!"{n} is not in {minYear}..={maxYear}")

def readValue (o : Valued) (text : String) : Except Usage Setting :=
  match o with
  | .sessionFile =>
    if text.isEmpty then .error (.missingValue .sessionFile) else .ok (.sessionFile ⟨text⟩)
  | .account => .ok (.account text)
  | .outputDir =>
    if text.isEmpty then .error (.missingValue .outputDir) else .ok (.outputDir ⟨text⟩)
  | .timezone => .ok (.timezone text)
  | .baseUrl => .ok (.baseUrl text)
  | .userAgent => .ok (.userAgent text)
  | .retries =>
    match Decimal.readNat Word.max64 text with
    | .error fault => .error (.invalidValue (.valued .retries) text fault.message)
    | .ok n => .ok (.retries n)

/-! ## Tokens -/

inductive Pending where
  | nothing
  /-- The next token is the value of the option. -/
  | awaiting (o : Valued)
  | value (o : Valued) (text : String)
  | year (text : String)
  deriving DecidableEq, Repr

structure State where
  /-- Completed items, in order. -/
  done : List Setting := []
  pending : Pending := .nothing
  /-- After `--` every token is a year. -/
  literal : Bool := false
  deriving DecidableEq, Repr

/-- Adds an item to the completed ones. -/
def complete (done : List Setting) (key : Key) (item : Except Usage Setting) :
    Except Usage (List Setting) :=
  if done.any (·.key == key) then .error (.repeated key)
  else item.map fun setting => done ++ [setting]

namespace State

/-- The completed items once the pending one is among them. -/
def flush (s : State) : Except Usage (List Setting) :=
  match s.pending with
  | .nothing => .ok s.done
  | .awaiting o => .error (.missingValue o)
  | .value o text => complete s.done (.valued o) (readValue o text)
  | .year text => complete s.done .year (readYear text)

def hasYear (s : State) : Bool :=
  match s.pending with
  | .year _ => true
  | _ => s.done.any (·.key == .year)

def takeYear (s : State) (token : String) : Except Usage State :=
  if s.hasYear then .error (.unknownArgument token)
  else s.flush.map fun done => { s with done, pending := .year token }

/-- A token without a dash, or a dash alone. -/
def takeWord (s : State) (token : String) : Except Usage State :=
  match s.pending with
  | .awaiting o => .ok { s with pending := .value o token }
  | _ => s.takeYear token

/-- An option whose value is still to come. -/
def takeOption (s : State) (o : Valued) : Except Usage State :=
  s.flush.map fun done => { s with done, pending := .awaiting o }

/-- An option with its value attached. -/
def takeAttached (s : State) (o : Valued) (text : String) : Except Usage State := do
  let done ← complete (← s.flush) (.valued o) (readValue o text)
  .ok { s with done, pending := .nothing }

def takeSwitch (s : State) (f : Switch) : Except Usage State := do
  let done ← complete (← s.flush) (.switch f) (.ok (.switch f))
  .ok { s with done, pending := .nothing }

def takeNotice (s : State) (n : Notice) : Except Usage State := do
  let _ ← s.flush
  .error (.notice n)

/-- A token `--name` or `--name=value`; `body` is what follows the dashes. -/
def takeLong (s : State) (body : List Char) : Except Usage State :=
  let name := String.ofList (cutAt '=' body).1
  let value? := (cutAt '=' body).2.map String.ofList
  match Dashed.ofName? name, value? with
  | none, _ => .error (.unknownArgument ("--" ++ name))
  | some (.valued o), some text => s.takeAttached o text
  | some (.valued o), none => s.takeOption o
  | some (.switch f), none => s.takeSwitch f
  | some (.notice n), none => s.takeNotice n
  | some (.switch f), some text => .error (.unexpectedValue f.name text)
  | some (.notice n), some text => .error (.unexpectedValue n.name text)

/-- A cluster of letters after one dash. What follows the letter of an option is its value, less
one `=`. -/
def takeLetters (s : State) : List Char → Except Usage State
  | [] => .ok s
  | c :: rest =>
    match Dashed.ofLetter? c with
    | none => .error (.unknownArgument (String.ofList ['-', c]))
    | some (.switch f) => do (← s.takeSwitch f).takeLetters rest
    | some (.notice n) => s.takeNotice n
    | some (.valued o) =>
      match rest with
      | [] => s.takeOption o
      | '=' :: text => s.takeAttached o (String.ofList text)
      | text => s.takeAttached o (String.ofList text)

def take (s : State) (token : String) : Except Usage State :=
  if s.literal then s.takeYear token
  else
    match token.toList with
    | ['-', '-'] => .ok { s with literal := true }
    | '-' :: '-' :: body => s.takeLong body
    | '-' :: c :: rest => s.takeLetters (c :: rest)
    | _ => s.takeWord token

end State

/-! ## Whole command lines -/

/-- The two ways to name a credential exclude each other; the one given first is named first. -/
def checkCredential (done : List Setting) : Except Usage Unit :=
  match done.filterMap fun
      | .sessionFile _ => some Valued.sessionFile
      | .account _ => some Valued.account
      | _ => none with
  | first :: second :: _ => .error (.conflict first second)
  | _ => .ok ()

/-- The arguments that completed items stand for. -/
def assemble (done : List Setting) : Except Usage Arguments :=
  match done.findSome? fun | .year n => some n | _ => none with
  | none => .error .missingYear
  | some year => .ok
    { year
      sessionFile := done.findSome? fun | .sessionFile p => some p | _ => none
      account := done.findSome? fun | .account label => some label | _ => none
      outputDir := done.findSome? fun | .outputDir p => some p | _ => none
      timezone := done.findSome? fun | .timezone text => some text | _ => none
      baseUrl := done.findSome? fun | .baseUrl url => some url | _ => none
      userAgent := done.findSome? fun | .userAgent text => some text | _ => none
      retries := done.findSome? fun | .retries n => some n | _ => none
      verbose := done.contains (.switch .verbose)
      quiet := done.contains (.switch .quiet) }

/-- Reads the tokens that follow the program's name. -/
def read (tokens : List String) : Except Usage Arguments := do
  let s ← tokens.foldlM State.take {}
  let done ← s.flush
  checkCredential done
  assemble done

end CommandLine

end PuzzleInputs
