import PuzzleInputs.Text.Decimal
import PuzzleInputs.Text.Trim
import PuzzleInputs.Word

/-!
# The log

An entry has a level, the part of the program it comes from, and a message. A filter is a list of
directives, each with a target and a level: an entry is shown if its level is within that of the
longest target with which its origin's label begins.
-/

namespace PuzzleInputs.Log

inductive Level where
  | error
  | warn
  | info
  | debug
  | trace
  deriving DecidableEq, Repr

namespace Level

/-- Levels are numbered from the most to the least urgent. -/
def rank : Level → Nat
  | .error => 1
  | .warn => 2
  | .info => 3
  | .debug => 4
  | .trace => 5

def name : Level → String
  | .error => "ERROR"
  | .warn => "WARN"
  | .info => "INFO"
  | .debug => "DEBUG"
  | .trace => "TRACE"

end Level

/-- The parts of the program that write to the log. -/
inductive Origin where
  | program
  | session
  | credential
  | download
  deriving DecidableEq, Repr

/-- The label under which filters know a part. -/
def Origin.label : Origin → String
  | .program => "aocfetch"
  | .session => "aocfetch::app"
  | .credential => "aocfetch::credential"
  | .download => "aocfetch::fetch::run"

structure Entry where
  level : Level
  origin : Origin
  message : String
  deriving DecidableEq, Repr

def Entry.line (e : Entry) : String := e.level.name ++ " " ++ e.message

/-! ## On a terminal -/

/-- The number in hexadecimal, without zeros in front. -/
def hexadecimal (n : Nat) : String := String.ofList (Nat.toDigits 16 n)

/-- Characters that a terminal would act on are shown by their numbers. -/
def escape (c : Char) : String :=
  let n := c.toNat
  if n == 0x07 || n == 0x08 || n == 0x0C then "\\x0" ++ hexadecimal n
  else if n == 0x1B || n == 0x7F then "\\x" ++ hexadecimal n
  else if 0x80 ≤ n && n ≤ 0x9F then "\\u\x7b" ++ hexadecimal n ++ "\x7d"
  else String.singleton c

/-- The line as the user sees it. -/
def Entry.shownLine (e : Entry) : String :=
  e.level.name ++ " " ++ String.join (e.message.toList.map escape)

/-! ## Filters -/

/-- The rank is that of the least urgent level shown, 0 if none is. -/
structure Directive where
  target : String
  rank : Nat
  deriving DecidableEq, Repr

structure Filter where
  directives : List Directive
  deriving DecidableEq, Repr

/-- A level by its number or by its name in any case; `off` shows nothing. -/
def rank? (text : String) : Option Nat :=
  match Decimal.readNat Word.max64 text with
  | .ok n => if n ≤ 5 then some n else none
  | .error _ =>
    if sameAsciiLetters text "off" then some 0
    else ([.error, .warn, .info, .debug, .trace] : List Level).find?
      (sameAsciiLetters text ·.name) |>.map Level.rank

/-- Characters with which a directive can begin. -/
def beginsDirective (c : Char) : Bool :=
  c.isAlphanum || c.toNat ≥ 0x80 || c == '-' || c == ':' || c == '_'

/-- Reads `target=level`, a level alone, or a target alone, which shows all of it. A blank is part
of the word it stands in; before a target with a level there is none. -/
def Directive.parse? (cs : List Char) : Option Directive :=
  match cs.dropWhile isBlank with
  | [] => none
  | first :: _ =>
    if !beginsDirective first then none
    else
      match cutAt '=' cs with
      | (word, none) =>
        match rank? (String.ofList word) with
        | some rank => some ⟨"", rank⟩
        | none => some ⟨String.ofList word, Level.trace.rank⟩
      | (target, some level) =>
        if target.head?.any isBlank then none
        else if level.isEmpty then some ⟨String.ofList target, Level.trace.rank⟩
        else (rank? (String.ofList level)).map (⟨String.ofList target, ·⟩)

namespace Filter

/-- A list of directives between commas. An empty one shows errors only. -/
def parse? (text : String) : Option Filter := do
  let words := (pieces ',' text.toList).filter (!·.isEmpty)
  if words.isEmpty then some ⟨[⟨"", Level.error.rank⟩]⟩
  else some ⟨← words.mapM Directive.parse?⟩

/-- The filter where the user sets none. -/
def standard (verbose : Bool) : Filter :=
  ⟨[⟨Origin.program.label, if verbose then Level.debug.rank else Level.warn.rank⟩]⟩

/-- A text that is no list of directives counts as none. -/
def choose (text? : Option String) (verbose : Bool) : Filter :=
  (text?.bind parse?).getD (standard verbose)

/-- The directive that decides: the longest matching target, of equal ones the last. -/
def decisive? (f : Filter) (o : Origin) : Option Directive :=
  f.directives.foldl (fun best d =>
    if d.target.toList.isPrefixOf o.label.toList then
      match best with
      | some b => if b.target.length ≤ d.target.length then some d else best
      | none => some d
    else best) none

def shows (f : Filter) (e : Entry) : Bool :=
  match f.decisive? e.origin with
  | some d => e.level.rank ≤ d.rank
  | none => false

end Filter

end PuzzleInputs.Log
