import PuzzleInputs.Word

/-!
# Pauses

A span of time in whole seconds of 64 bits and nanoseconds. `Pause.times` stops at the longest pause
there is. `Pause.slices` are the waits that a machine makes of a pause, since one wait has a signed
number of seconds.
-/

namespace PuzzleInputs

structure Pause where
  seconds : Nat
  nanos : Nat
  seconds_le : seconds ≤ Word.max64 := by decide
  nanos_lt : nanos < 1000000000 := by decide
  deriving DecidableEq, Repr

namespace Pause

def longest : Pause := { seconds := Word.max64, nanos := 999999999 }

def isZero (p : Pause) : Bool := p.seconds == 0 && p.nanos == 0

def toNanos (p : Pause) : Nat := p.seconds * 1000000000 + p.nanos

/-- The length of `k` pauses in a row: full seconds of nanoseconds are carried over. -/
def times (p : Pause) (k : Nat) : Pause :=
  let nanos := p.nanos * k
  let seconds := p.seconds * k + nanos / 1000000000
  if h : seconds ≤ Word.max64 then
    { seconds, nanos := nanos % 1000000000
      seconds_le := h, nanos_lt := Nat.mod_lt _ (by decide) }
  else longest

/-- The wait before try number `attempt + 1`: the base once for each try so far. The tries are
counted with 32 bits. -/
def backoff (base : Pause) (attempt : Nat) : Pause :=
  base.times (if attempt ≤ Word.max32 then attempt else Word.max32)

/-- The waits that make up a pause. The nanoseconds go with the first one. -/
def slices (p : Pause) : List (Nat × Nat) :=
  let limit := Word.maxSigned64
  if p.isZero then []
  else if p.seconds ≤ limit then [(p.seconds, p.nanos)]
  else if p.seconds - limit ≤ limit then [(limit, p.nanos), (p.seconds - limit, 0)]
  else [(limit, p.nanos), (limit, 0), (p.seconds - 2 * limit, 0)]

end Pause

end PuzzleInputs
