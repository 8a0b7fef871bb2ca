import PuzzleInputs.Host
import PuzzleInputs.Http.Message

/-!
# The HTTP client

A request carries the session cookie and the user agent. Redirects are followed ten times at most,
and without the cookie. Only the body of a reply with status 200 is read, and decoded if it came in
an encoding. The client works over a `Wire`, which carries one message to a server and brings back
its reply.
-/

namespace PuzzleInputs.Http

abbrev Wire (m : Type → Type) := Message → m (Except Fault Reply)

/-- All statuses from 300 to 399 but the one that says that nothing was modified. -/
def isRedirect (status : Nat) : Bool := 300 ≤ status && status < 400 && status != 304

def redirectLimit : Nat := 10

/-- Only addresses with one of the two schemes can be connected to. -/
def checkScheme (u : Uri) : Except Fault Unit :=
  match u.scheme with
  | none => .error (.missingScheme u.text)
  | some scheme =>
    if sameAsciiLetters scheme "http" || sameAsciiLetters scheme "https" then .ok ()
    else .error (.unknownScheme scheme)

/-- The message for a request, if it can be sent. -/
def compose (r : Request) : Except Fault Message := do
  let uri ← (Uri.parse r.url).mapError .address
  let cookie := "session=" ++ r.token
  if !isFieldValue cookie || !isFieldValue r.userAgent then .error .headerValue
  else .ok ⟨uri, [("Cookie", cookie), ("User-Agent", r.userAgent)]⟩

/-- The message that follows a redirect, whose body is read to its end first. Of several locations
the last one counts. -/
def redirected (sent : Message) (reply : Reply) : Except Fault Message := do
  let _ ← reply.payload
  match (reply.fields.getAll "location").getLast? with
  | none => .error .missingLocation
  | some location =>
    match sent.uri.resolve? location with
    | none => .error (.malformedLocation location)
    | some uri => .ok ⟨uri, sent.fields.filter fun (name, _) => name != "Cookie"⟩

/-- Sends a message to where its address says. A reply must tell how its body ends. -/
def send {m : Type → Type} [Monad m] (wire : Wire m) (message : Message) :
    m (Except Fault Reply) := do
  match checkScheme message.uri with
  | .error e => return .error e
  | .ok () =>
    match ← wire message with
    | .error e => return .error e
    | .ok reply => return reply.framing.map fun _ => reply

/-- Sends a message and follows so many redirects. -/
def exchange {m : Type → Type} [Monad m] (wire : Wire m) : Nat → Message → m (Except Fault Reply)
  | 0, message => do
    match ← send wire message with
    | .error e => return .error e
    | .ok reply =>
      if isRedirect reply.status then return .error .tooManyRedirects else return .ok reply
  | left + 1, message => do
    match ← send wire message with
    | .error e => return .error e
    | .ok reply =>
      if isRedirect reply.status then
        match redirected message reply with
        | .error e => return .error e
        | .ok next => exchange wire left next
      else return .ok reply

/-- The response that a reply stands for. -/
def receive (decode : Decoder) (url : String) (reply : Reply) : Except Failure Response :=
  if reply.status = 200 then
    match reply.content decode with
    | .ok body => .ok ⟨200, body⟩
    | .error e => .error (.body url e.message)
  else .ok ⟨reply.status, ByteArray.empty⟩

/-- The transport that speaks HTTP over a wire. Its failures name the requested address. -/
def transport {m : Type → Type} [Monad m] (decode : Decoder) (wire : Wire m) : Transport m :=
  fun r => do
  match compose r with
  | .error e => return .error (.transport r.url e.message)
  | .ok message =>
    match ← exchange wire redirectLimit message with
    | .error e => return .error (.transport r.url e.message)
    | .ok reply => return receive decode r.url reply

end PuzzleInputs.Http
