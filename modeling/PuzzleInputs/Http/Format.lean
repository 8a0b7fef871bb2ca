import PuzzleInputs.Http.Message

/-!
# Messages and replies as bytes

`Message.encode` writes the head of a GET request, which has no body. `Reply.decode?` cuts the bytes
that a server sent into status, header fields and the rest.
-/

namespace PuzzleInputs.Http

/-- The host is named first, and the connection is to be closed after the reply. -/
def Message.encode (message : Message) : ByteArray :=
  let host := (message.uri.authority.splitOn "@").getLast?.getD ""
  let fields := ("Host", host) :: message.fields ++ [("Accept", "*/*"), ("Connection", "close")]
  let lines := ("GET " ++ message.uri.requestTarget ++ " HTTP/1.1") ::
    fields.map fun (name, value) => name ++ ": " ++ value
  ("\r\n".intercalate lines ++ "\r\n\r\n").toUTF8

def isFieldBlank (c : Char) : Bool := c == ' ' || c == '\t'

/-- A header line, with spaces and tabs around its value dropped. -/
def readField (line : List Char) : Option (String × String) :=
  match cutAt ':' line with
  | (name, some value) =>
    let value := dropTrailing isFieldBlank (value.dropWhile isFieldBlank)
    some (String.ofList name, String.ofList value)
  | (_, none) => none

/-- The status in the first line of a reply. -/
def readStatus (line : List Char) : Option Nat :=
  match pieces ' ' line with
  | _ :: status :: _ => (String.ofList status).toNat?
  | _ => none

/-- The lines of the head, up to the empty one, and the bytes after it. -/
def cutHead : Nat → List UInt8 → Option (List (List Char) × List UInt8)
  | 0, _ => none
  | fuel + 1, bytes =>
    match cutLine bytes with
    | none => none
    | some ([], rest) => some ([], rest)
    | some (line, rest) => do
      let text ← String.fromUTF8? ⟨line.toArray⟩
      let (lines, rest) ← cutHead fuel rest
      some (text.toList :: lines, rest)

def Reply.decode? (bytes : ByteArray) : Option Reply := do
  let (lines, rest) ← cutHead (bytes.size + 1) bytes.toList
  match lines with
  | [] => none
  | first :: fields =>
    some ⟨← readStatus first, fields.filterMap readField, ⟨rest.toArray⟩⟩

end PuzzleInputs.Http
