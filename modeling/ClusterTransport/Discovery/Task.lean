import ClusterTransport.Clock
import ClusterTransport.Config.Basic
import ClusterTransport.DiscoveryService.Result

/-!
# The discovery task

A loop calls the discovery service, hands what it finds to a handler, and sleeps until the next
round. The task starts loops and stops them all; results are handed over under a lock that a stop
takes as well. A loop is a sequence of steps between which other loops and operations may take
theirs.
-/

namespace ClusterTransport

/-- How far a loop is. -/
inductive Round where
  /-- A call is to be begun. -/
  | calling
  /-- A call is in flight. -/
  | awaiting (call : Nat) (since : Instant)
  /-- The call is over, and the loop is to look whether the task is stopped. -/
  | answered (outcome : Except Error DiscoveryResult)
  /-- The lock is to be taken. -/
  | locking (result : DiscoveryResult)
  /-- The lock is held, and the loop is to look again whether the task is stopped. -/
  | rechecking (result : DiscoveryResult)
  /-- The lock is held while the handler takes the result. -/
  | handing (result : DiscoveryResult)
  /-- The handler is to be asked how urgent the next round is. -/
  | asking
  | sleeping (wake : Instant)
  | ended

/-- What a loop does that others can see. -/
inductive RoundAction where
  | call (number : Nat)
  | handOver (result : DiscoveryResult)
deriving DecidableEq, Repr

structure RoundView where
  now : Instant
  /-- The answer to the call in flight, if it has come. -/
  answer : Option (Except Error DiscoveryResult)
  handled : Bool
  urgent : Bool
  /-- Which way a loop goes that finds both its sleep over and the task stopped. -/
  stopFirst : Bool

/-- The loops of a task and what they share. -/
structure DiscoveryTask where
  settings : DiscoverySettings := {}
  timers : Timers := {}
  isStopped : Bool := false
  /-- Whether a result is being handed over, or the task being stopped. -/
  isLocked : Bool := false
  /-- The loop whose handle the task keeps. -/
  handle : Option Nat := none
  /-- The loops, in the order in which they were started. -/
  loops : List Round := []
  calls : Nat := 0

namespace DiscoveryTask

def timeout (t : DiscoveryTask) : Span :=
  t.timers.run (Span.seconds t.settings.timeout.toNat)

def pause (t : DiscoveryTask) (urgent : Bool) : Span :=
  t.timers.run (Span.seconds (if urgent then t.settings.minPeriod else t.settings.period).toNat)

/-- What a round makes of an answer: an empty list is none. -/
def outcomeOf : Except Error DiscoveryResult → Except Error DiscoveryResult
  | .ok r => if r.endpoints.isEmpty then .error (.discovery .noEndpoints) else .ok r
  | .error e => .error e

/-- What a call in flight has come to: an answer that has come counts, even at the last moment. -/
def outcome? (t : DiscoveryTask) (v : RoundView) (since : Instant) :
    Option (Except Error DiscoveryResult) :=
  match v.answer with
  | some answer => some (outcomeOf answer)
  | none =>
    if since + t.timeout ≤ v.now then some (.error (.timeout (.round t.settings.timeout)))
    else none

/-- One step of a loop, with what it does; `none` if it has to wait. -/
def stepRound (t : DiscoveryTask) (v : RoundView) :
    Round → Option (DiscoveryTask × Round × Option RoundAction)
  | .calling =>
    some ({ t with calls := t.calls + 1 }, .awaiting t.calls v.now, some (.call t.calls))
  | .awaiting _ since => (t.outcome? v since).map fun outcome => (t, .answered outcome, none)
  | .answered outcome =>
    if t.isStopped then some (t, .ended, none)
    else
      match outcome with
      | .ok result => some (t, .locking result, none)
      | .error _ => some (t, .asking, none)
  | .locking result =>
    if t.isLocked then none else some ({ t with isLocked := true }, .rechecking result, none)
  | .rechecking result =>
    if t.isStopped then some ({ t with isLocked := false }, .ended, none)
    else some (t, .handing result, some (.handOver result))
  | .handing _ => if v.handled then some ({ t with isLocked := false }, .asking, none) else none
  | .asking => some (t, .sleeping (v.now + t.pause v.urgent), none)
  | .sleeping wake =>
    if t.isStopped then
      if v.stopFirst || v.now < wake then some (t, .ended, none) else some (t, .calling, none)
    else if wake ≤ v.now then some (t, .calling, none)
    else none
  | .ended => none

def stepLoop (t : DiscoveryTask) (v : RoundView) (i : Nat) :
    Option (DiscoveryTask × Option RoundAction) :=
  match t.loops[i]? with
  | none => none
  | some round =>
    (t.stepRound v round).map fun r => ({ r.1 with loops := r.1.loops.set i r.2.1 }, r.2.2)

def spawn (t : DiscoveryTask) : DiscoveryTask :=
  { t with handle := some t.loops.length, loops := t.loops ++ [.calling] }

/-- Starts a loop, unless the task keeps the handle of one. `hasExecutor` tells whether there is
anything that could run it. -/
def start (t : DiscoveryTask) (hasExecutor : Bool) : DiscoveryTask × Except Error Unit :=
  if hasExecutor then
    if t.handle.isSome then (t, .ok ())
    else if t.isStopped then (t, .error .shuttingDown)
    else (t.spawn, .ok ())
  else (t, .error (.configuration .noExecutor))

def takeHandle (t : DiscoveryTask) : DiscoveryTask × Option Nat :=
  ({ t with handle := none }, t.handle)

def hasEnded (t : DiscoveryTask) (i : Nat) : Bool :=
  match t.loops[i]? with
  | some .ended => true
  | _ => false

end DiscoveryTask

/-- How far a stop is. -/
inductive Stopping where
  /-- The lock is to be taken. -/
  | begun
  /-- The lock is held, and the task is to be marked as stopped. -/
  | locked
  /-- The lock is to be given back. -/
  | marked
  | done
deriving DecidableEq, Repr

namespace Stopping

def step (t : DiscoveryTask) : Stopping → Option (DiscoveryTask × Stopping)
  | begun => if t.isLocked then none else some ({ t with isLocked := true }, locked)
  | locked => some ({ t with isStopped := true }, marked)
  | marked => some ({ t with isLocked := false }, done)
  | done => none

def steps : Nat → DiscoveryTask × Stopping → DiscoveryTask × Stopping
  | 0, s => s
  | n + 1, s =>
    match step s.1 s.2 with
    | none => s
    | some s' => steps n s'

end Stopping

/-- Stops all loops: none hands over a result any more. -/
def DiscoveryTask.stop (t : DiscoveryTask) : DiscoveryTask :=
  (Stopping.steps 3 (t, .begun)).1

/-- Gives the task up. Its loops end without waiting for the lock. -/
def DiscoveryTask.drop (t : DiscoveryTask) : DiscoveryTask :=
  { t with isStopped := true, handle := none }

end ClusterTransport
