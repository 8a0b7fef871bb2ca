import PuzzleInputs.Http.Uri
import PuzzleInputs.IoFault
import PuzzleInputs.Text.Decimal
import PuzzleInputs.Word

/-!
# Requests, replies and their bodies

A reply holds the bytes that came after its header fields until the connection was closed.
`Reply.payload` cuts the body out of them: by chunks, by the declared length, or all of them, as
`Reply.framing` says. A body in a content encoding is left to a `Decoder`.
-/

namespace PuzzleInputs.Http

/-- Why a request has no answer. -/
inductive Fault where
  | address (fault : Uri.Fault)
  | headerValue
  | missingScheme (uri : String)
  | unknownScheme (scheme : String)
  | tooManyRedirects
  | missingLocation
  | malformedLocation (location : String)
  | contentLength
  | chunkText
  | chunkLength
  | chunkEnd
  | disconnected
  | io (fault : IoFault)
  /-- The body is not in the encoding that it should be in. -/
  | encoding (name reason : String)
  deriving DecidableEq, Repr

def Fault.message : Fault → String
  | .address fault => "http: " ++ fault.message
  | .headerValue => "http: failed to parse header value"
  | .missingScheme uri => "bad uri: " ++ uri ++ " is missing scheme"
  | .unknownScheme scheme => "bad uri: unknown scheme: " ++ scheme
  | .tooManyRedirects => "too many redirects"
  | .missingLocation => "protocol: missing a location header"
  | .malformedLocation location => "protocol: location header is malformed: " ++ location
  | .contentLength => "protocol: content-length header not a number"
  | .chunkText => "protocol: chunk length is not ascii"
  | .chunkLength => "protocol: chunk length cannot be read as a number"
  | .chunkEnd => "protocol: chunk expected crlf as next character"
  | .disconnected => "io: Peer disconnected"
  | .io fault => "io: " ++ fault.message
  | .encoding name reason => name ++ " decompression failed: " ++ reason

abbrev Fields := List (String × String)

/-- The first field of that name; case does not matter. -/
def Fields.get? (fields : Fields) (name : String) : Option String :=
  (fields.find? fun (key, _) => sameAsciiLetters key name).map (·.2)

/-- All values of the fields of that name. -/
def Fields.getAll (fields : Fields) (name : String) : List String :=
  (fields.filter fun (key, _) => sameAsciiLetters key name).map (·.2)

/-- A value may hold anything but control characters; the tab is allowed. -/
def isFieldValue (value : String) : Bool :=
  value.toList.all fun c => c == '\t' || (0x20 ≤ c.toNat && c.toNat != 0x7F)

/-- A GET request to the host that the address names. -/
structure Message where
  uri : Uri
  fields : Fields
  deriving DecidableEq, Repr

structure Reply where
  status : Nat
  fields : Fields
  bytes : ByteArray

/-! ## Chunks -/

def hexValue? (c : Char) : Option Nat :=
  if '0' ≤ c ∧ c ≤ '9' then some (c.toNat - '0'.toNat)
  else if 'a' ≤ c ∧ c ≤ 'f' then some (c.toNat - 'a'.toNat + 10)
  else if 'A' ≤ c ∧ c ≤ 'F' then some (c.toNat - 'A'.toNat + 10)
  else none

/-- The bytes before the first line end and those after it. -/
def cutLine : List UInt8 → Option (List UInt8 × List UInt8)
  | [] => none
  | 0x0D :: 0x0A :: rest => some ([], rest)
  | b :: rest => (cutLine rest).map fun (line, rest) => (b :: line, rest)

/-- A number in hexadecimal that fits in 64 bits. It may have a plus sign. -/
def hexNumber? (text : List Char) : Option Nat := do
  let digits := match text with
    | '+' :: rest => rest
    | _ => text
  if digits.isEmpty then none
  else
    let n ← digits.foldlM (fun acc c => (hexValue? c).map (16 * acc + ·)) 0
    if n ≤ Word.max64 then some n else none

/-- The size in front of a chunk. Blanks around it and an extension behind a semicolon do not
count. -/
def chunkSize (line : List UInt8) : Except Fault Nat :=
  match String.fromUTF8? ⟨(line.takeWhile (· != 0x3B)).toArray⟩ with
  | none => .error .chunkText
  | some text =>
    match hexNumber? (trimBlank text).toList with
    | none => .error .chunkLength
    | some n => .ok n

/-- The chunks up to the empty one, put together. What follows its size is not looked at. -/
def readChunks : Nat → List UInt8 → Except Fault (List UInt8)
  | 0, _ => .error .disconnected
  | fuel + 1, bytes =>
    match cutLine bytes with
    | none => .error .disconnected
    | some (line, rest) =>
      match chunkSize line with
      | .error e => .error e
      | .ok 0 => .ok []
      | .ok size =>
        if rest.length < size + 2 then .error .disconnected
        else
          match rest.drop size with
          | 0x0D :: 0x0A :: rest' => (readChunks fuel rest').map (rest.take size ++ ·)
          | _ => .error .chunkEnd

/-! ## Bodies -/

def Reply.isChunked (r : Reply) : Bool :=
  match r.fields.get? "transfer-encoding" with
  | some codings => (pieces ',' codings.toList).any fun coding =>
      sameAsciiLetters (trimBlank (String.ofList coding)) "chunked"
  | none => false

/-- What tells the end of a body. -/
inductive Framing where
  | chunks
  | length (n : Nat)
  | close
  deriving DecidableEq, Repr

/-- Chunks win over a declared length, which must be a number all the same. -/
def Reply.framing (r : Reply) : Except Fault Framing :=
  match (r.fields.get? "content-length").map (Decimal.readNat Word.max64) with
  | some (.error _) => .error .contentLength
  | some (.ok n) => .ok (if r.isChunked then .chunks else .length n)
  | none => .ok (if r.isChunked then .chunks else .close)

/-- The body of a reply. One that ends before its time has none. -/
def Reply.payload (r : Reply) : Except Fault ByteArray := do
  match ← r.framing with
  | .chunks => (readChunks (r.bytes.size + 1) r.bytes.toList).map fun bytes => ⟨bytes.toArray⟩
  | .length n => if n ≤ r.bytes.size then .ok (r.bytes.extract 0 n) else .error .disconnected
  | .close => .ok r.bytes

/-- What a client makes of replies with a body in a content encoding. -/
abbrev Decoder := Reply → Except Fault ByteArray

/-- The body of a reply as it was before it was encoded. -/
def Reply.content (decode : Decoder) (r : Reply) : Except Fault ByteArray :=
  match r.fields.get? "content-encoding" with
  | none => r.payload
  | some _ => decode r

end PuzzleInputs.Http
