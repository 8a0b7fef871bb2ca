import PuzzleInputs.Disk
import PuzzleInputs.Http.Client

/-!
# Machines

A machine as a value: a disk, a clock that stands still, and what it is connected to (`net`). All
that is asked of it is written down in its `history`, with the answer.
-/

namespace PuzzleInputs

/-- Something that was asked of a machine, and what came of it. -/
inductive Event where
  | makeDirectories (path : Path) (result : Except IoFault Unit)
  | write (path : Path) (bytes : ByteArray) (result : Except IoFault Unit)
  | print (line : String)
  | complain (line : String)
  | log (entry : Log.Entry)
  | wait (pause : Pause)
  /-- A request for an input, as the transport got it. -/
  | request (r : Request) (outcome : Except Failure Response)
  /-- A message on the wire. -/
  | exchange (message : Http.Message) (outcome : Except Http.Fault Http.Reply)

structure Machine (σ : Type) where
  disk : Disk
  clock : Clock
  net : σ
  history : Array Event := #[]

namespace Machine

variable {σ : Type}

def record (e : Event) (w : Machine σ) : Machine σ := { w with history := w.history.push e }

/-- The machine as a host of runs. -/
def host : Host (StateM (Machine σ)) where
  read path := fun w => (w.disk.read path, w)
  makeDirectories path := fun w =>
    let (result, disk) := w.disk.makeDirectories path
    (result, record (.makeDirectories path result) { w with disk })
  write path bytes := fun w =>
    match w.disk.write path bytes with
    | .ok disk => (.ok (), record (.write path bytes (.ok ())) { w with disk })
    | .error e => (.error e, record (.write path bytes (.error e)) w)
  print line := fun w => ((), w.record (.print line))
  complain line := fun w => ((), w.record (.complain line))
  log entry := fun w => ((), w.record (.log entry))
  wait pause := fun w => ((), w.record (.wait pause))
  clock := fun w => (w.clock, w)

/-- The transport with each of its requests written down. -/
def recorded (transport : Transport (StateM (Machine σ))) : Transport (StateM (Machine σ)) :=
  fun r w =>
    let (outcome, w) := transport r w
    (outcome, w.record (.request r outcome))

/-- A transport that answers each request from the state of `net`. -/
def transport (answer : Request → σ → Except Failure Response × σ) :
    Transport (StateM (Machine σ)) :=
  recorded fun r w =>
    let (outcome, net) := answer r w.net
    (outcome, { w with net })

/-- A wire to servers that answer each message from the state of `net`. -/
def wire (serve : Http.Message → σ → Except Http.Fault Http.Reply × σ) :
    Http.Wire (StateM (Machine σ)) := fun message w =>
  let (outcome, net) := serve message w.net
  (outcome, record (.exchange message outcome) { w with net })

end Machine

end PuzzleInputs
