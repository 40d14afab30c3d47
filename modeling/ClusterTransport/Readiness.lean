import ClusterTransport.Clock

/-!
# Readiness

A gate that opens or closes once and then stays as it is. Callers wait at it for a bounded time.
-/

namespace ClusterTransport

inductive Readiness where
  | pending
  | ready
  | closed
deriving DecidableEq, Repr

namespace Readiness

/-- Opens a gate that is still pending. -/
def signal : Readiness → Readiness
  | pending => ready
  | g => g

/-- Closes a gate that is still pending. -/
def close : Readiness → Readiness
  | pending => closed
  | g => g

def isReady (g : Readiness) : Bool :=
  g = ready

def isSettled (g : Readiness) : Bool :=
  g ≠ pending

/-- How far a caller is that waits. -/
inductive Wait where
  | until (deadline : Instant)
  /-- The caller is let go, and told whether the gate is open. -/
  | over (opened : Bool)
deriving DecidableEq, Repr

/-- A caller arrives at the gate: it waits only if the gate is pending and it has time. -/
def arrive (g : Readiness) (now : Instant) (timeout : Span) : Wait :=
  if g.isSettled || timeout = 0 then .over g.isReady else .until (now + timeout)

/-- A waiting caller looks again: it goes when the gate has settled or its time is up. -/
def look (g : Readiness) (now : Instant) : Wait → Wait
  | .until deadline =>
    if g.isSettled || deadline ≤ now then .over g.isReady else .until deadline
  | .over opened => .over opened

end Readiness

end ClusterTransport
