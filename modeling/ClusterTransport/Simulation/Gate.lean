import ClusterTransport.Readiness
import ClusterTransport.Simulation.Timeline

/-!
# Scripted waiting

Callers that wait at a gate on a simulated clock.
-/

namespace ClusterTransport.Simulation

inductive GateCommand where
  | signal
  | close
  | wait (id : String) (timeout : Span)
  | advance (d : Span)
deriving DecidableEq, Repr

/-- A caller that was let go: when, and what it was told. -/
structure Release where
  time : Instant
  id : String
  opened : Bool
deriving DecidableEq, Repr

structure GateRun where
  now : Instant := 0
  gate : Readiness := .pending
  waiting : List (String × Readiness.Wait) := []
  /-- The callers that were let go, the latest first. -/
  released : List Release := []
deriving Repr

structure GateReport where
  now : Instant
  isReady : Bool
  released : List Release
deriving DecidableEq, Repr

namespace GateRun

def runAt (now : Instant) (r : GateRun) : GateRun :=
  let looked := r.waiting.map fun w => (w.1, r.gate.look now w.2)
  { r with
    waiting := looked.filter fun w => match w.2 with
      | .until _ => true
      | .over _ => false
    released := (looked.filterMap fun w => match w.2 with
      | .until _ => none
      | .over opened => some ⟨now, w.1, opened⟩) ++ r.released }

def dues (r : GateRun) : List Instant :=
  r.waiting.filterMap fun w => match w.2 with
    | .until deadline => some deadline
    | .over _ => none

def perform (r : GateRun) : GateCommand → GateRun
  | .signal => runAt r.now { r with gate := r.gate.signal }
  | .close => runAt r.now { r with gate := r.gate.close }
  | .wait id timeout =>
    let wait := r.gate.arrive r.now (timers.run timeout)
    runAt r.now { r with waiting := r.waiting ++ [(id, wait)] }
  | .advance d =>
    let x := pass dues runAt r.now d r
    { x.2 with now := x.1 }

/-- Whether one release is listed before another: by time, and then by name. -/
def inOrder (a b : Release) : Bool :=
  a.time < b.time || (a.time == b.time && a.id ≤ b.id)

def performAll (r : GateRun) : List GateCommand → List GateReport
  | [] => []
  | c :: commands =>
    let r' := ({ r with released := [] } : GateRun).perform c
    ⟨r'.now, r'.gate.isReady, r'.released.mergeSort inOrder⟩ :: performAll r' commands

end GateRun

end ClusterTransport.Simulation
