/-!
# Time

Instants and spans of time are whole nanoseconds; instants are counted from the start of a clock.
A timer runs as long as it is set to, unless its kind has an end.
-/

namespace ClusterTransport

/-- A point in time, in nanoseconds since the start of its clock. -/
abbrev Instant := Nat

abbrev Span := Nat

namespace Span

def seconds (n : Nat) : Span :=
  n * 1000000000

def milliseconds (n : Nat) : Span :=
  n * 1000000

def toMicroseconds (d : Span) : Nat :=
  d / 1000

end Span

structure Timers where
  longest : Option Span := none
deriving DecidableEq, Repr

namespace Timers

/-- How long a timer runs that is set to a span: as long, or less if that is too long. -/
def run (c : Timers) (d : Span) : Span :=
  match c.longest with
  | none => d
  | some longest => min d longest

/-- Timers that run thirty years of 365 days at most. -/
def bounded : Timers :=
  ⟨some (Span.seconds 946080000)⟩

end Timers

namespace Instant

/-- The end of time. Seconds are counted in 63 bits, and the count begins at least one second before
the clock starts. -/
def limit : Instant :=
  0x7FFFFFFFFFFFFFFF * 1000000000

/-- The instant after a span, if there is one before the end of time. -/
def after? (t : Instant) (d : Span) : Option Instant :=
  if t + d < limit then some (t + d) else none

def toMilliseconds (t : Instant) : Nat :=
  t / 1000000

end Instant

end ClusterTransport
