import PuzzleInputs.Text.Trim

/-!
# Addresses of requests

`Uri.parse` cuts an address into scheme, authority and target, and refuses what cannot be sent. The
target is the path with its query as written: nothing is decoded, no dots are removed, and a
fragment is cut off. `Uri.resolve?` is the address that a redirect leads to.
-/

namespace PuzzleInputs.Http

structure Uri where
  scheme : Option String
  authority : String
  target : String
  deriving DecidableEq, Repr

namespace Uri

inductive Fault where
  | empty
  | invalidCharacter
  | invalidFormat
  | invalidAuthority
  | schemeTooLong
  | tooLong
  deriving DecidableEq, Repr

def Fault.message : Fault → String
  | .empty => "empty string"
  | .invalidCharacter => "invalid uri character"
  | .invalidFormat => "invalid format"
  | .invalidAuthority => "invalid authority"
  | .schemeTooLong => "scheme too long"
  | .tooLong => "uri too long"

/-- The address as text. -/
def text (u : Uri) : String :=
  (match u.scheme with | some scheme => scheme ++ "://" | none => "") ++ u.authority ++ u.target

/-- The target of the request line: an empty path is `/`. -/
def requestTarget (u : Uri) : String :=
  match u.target.toList with
  | [] => "/"
  | '?' :: _ => "/" ++ u.target
  | _ => u.target

/-! ## Scheme -/

def isSchemeChar (c : Char) : Bool :=
  c.isAlphanum || c == '+' || c == '-' || c == '.' || c == '~'

/-- The text before a `://` and the text after it, if all before it can stand in a scheme. The three
characters alone are no scheme. -/
def cutScheme (cs : List Char) : Option (List Char × List Char) :=
  match cs.dropWhile isSchemeChar with
  | ':' :: '/' :: '/' :: rest =>
    if cs.length > 3 then some (cs.takeWhile isSchemeChar, rest) else none
  | _ => none

/-! ## Authority -/

def isUriChar (c : Char) : Bool := c.isAlphanum || "!#$&'()*+,-./:;=?@[]_~".toList.contains c

def endsAuthority (c : Char) : Bool := c == '/' || c == '?' || c == '#'

/-- What is known of an authority after some of its characters. -/
structure AuthorityScan where
  colons : Nat := 0
  opened : Bool := false
  closed : Bool := false
  percent : Bool := false
  /-- The last character was `@`. -/
  atEnd : Bool := false

/-- A percent sign may stand before an `@` or inside brackets only, and of the colons there, any
number up to eight. -/
def AuthorityScan.step (s : AuthorityScan) (c : Char) : Except Fault AuthorityScan :=
  let s := { s with atEnd := false }
  match c with
  | ':' => if s.colons ≥ 8 then .error .invalidAuthority else .ok { s with colons := s.colons + 1 }
  | '[' => if s.percent || s.opened then .error .invalidAuthority else .ok { s with opened := true }
  | ']' =>
    if !s.opened || s.closed then .error .invalidAuthority
    else .ok { s with closed := true, colons := 0, percent := false }
  | '@' => .ok { s with colons := 0, percent := false, atEnd := true }
  | '%' => .ok { s with percent := true }
  | c => if isUriChar c then .ok s else .error .invalidCharacter

def checkAuthority (cs : List Char) : Except Fault Unit := do
  let s ← cs.foldlM AuthorityScan.step {}
  if s.opened != s.closed || s.colons > 1 || s.atEnd || s.percent then .error .invalidAuthority
  else .ok ()

/-! ## Target -/

/-- Characters that neither a path nor a query may hold. -/
def isRefused (c : Char) : Bool :=
  c.toNat ≤ 0x20 || c.toNat == 0x7F || c == '<' || c == '>'

/-- A path may not hold a grave accent, and a query no double quote. -/
def hasTargetChars (cs : List Char) : Bool :=
  let (path, query) := cutAt '?' cs
  path.all (fun c => !isRefused c && c.toNat != 0x60) &&
    (query.getD []).all (fun c => !isRefused c && c != '"')

/-- Path and query without the fragment. -/
def readTarget (cs : List Char) : Except Fault String :=
  let kept := (cutAt '#' cs).1
  if hasTargetChars kept then .ok (String.ofList kept) else .error .invalidCharacter

/-! ## Whole addresses -/

def maxBytes : Nat := 65534

/-- Cuts and checks the part behind the scheme. -/
def readHierarchy (scheme : String) (rest : List Char) : Except Fault Uri := do
  if rest.isEmpty then .error .empty
  else
    let authority := rest.takeWhile (!endsAuthority ·)
    checkAuthority authority
    if authority.isEmpty then .error .invalidFormat
    else
      let target ← readTarget (rest.dropWhile (!endsAuthority ·))
      .ok ⟨some scheme, String.ofList authority, target⟩

def parse (address : String) : Except Fault Uri :=
  let cs := address.toList
  if address.utf8ByteSize > maxBytes then .error .tooLong
  else
    match cs with
    | [] => .error .empty
    | ['*'] => .ok ⟨none, "", "*"⟩
    | '/' :: _ => (readTarget cs).map fun target => ⟨none, "", target⟩
    | [c] =>
      if endsAuthority c then .error .invalidCharacter
      else (checkAuthority cs).map fun _ => ⟨none, address, ""⟩
    | _ =>
      match cutScheme cs with
      | some (scheme, rest) =>
        if scheme.length > 64 then .error .schemeTooLong
        else readHierarchy (String.ofList scheme) rest
      | none => do
        let authority := cs.takeWhile (!endsAuthority ·)
        checkAuthority authority
        if authority.length = cs.length then .ok ⟨none, address, ""⟩ else .error .invalidFormat

/-! ## Redirects -/

/-- Leaves out every `.`, and every `..` with the segment before it. -/
def withoutDots (segments : List (List Char)) : List (List Char) :=
  let kept := segments.foldl (fun kept segment =>
    if segment = ['.'] then kept
    else if segment = ['.', '.'] then kept.tail
    else segment :: kept) []
  kept.reverse

/-- The path that `relative` names from the directory of `base`. A query is not told apart: it is
part of the segment in which it begins. -/
def mergePath (base relative : List Char) : List Char :=
  ['/'].intercalate (withoutDots ((pieces '/' base).dropLast ++ pieces '/' relative))

/-- Characters of which a location can be made. -/
def isLocationChar (c : Char) : Bool := c == '\t' || (0x20 ≤ c.toNat && c.toNat < 0x7F)

/-- The path on the same host that a location stands for, unless it leads above the root. -/
def locate? (u : Uri) (location : List Char) : Option Uri := do
  let path := match location with
    | '/' :: _ => location
    | _ => mergePath (cutAt '?' u.requestTarget.toList).1 location
  let target ← (readTarget path).toOption
  if path.head? = some '/' then some { u with target } else none

/-- The address of a location: a full address, a path on the same host, or a path from the
directory of the current one. -/
def resolve? (u : Uri) (location : String) : Option Uri :=
  if !location.toList.all isLocationChar then none
  else
    match parse location with
    | .ok ⟨some scheme, authority, target⟩ => some ⟨some scheme, authority, target⟩
    | _ => u.locate? location.toList

end Uri

end PuzzleInputs.Http
