import ClusterTransport.Discovery.Run
import ClusterTransport.Simulation.Timeline

/-!
# Scripted discovery

A discovery task on a simulated clock, with a script of answers and a handler that only records
what it is handed.
-/

namespace ClusterTransport.Simulation

open DiscoveryTask (Running)

def onTimers (r : DiscoveryReply) : DiscoveryReply :=
  { r with delay := r.delay.map timers.run }

inductive DiscoveryCommand where
  | start (hasExecutor : Bool)
  | stop
  | takeHandle
  | drop
  /-- From now on the handler says whether rounds are urgent. -/
  | urgent (on : Bool)
  | advance (d : Span)
deriving DecidableEq, Repr

inductive DiscoveryAnswer where
  | nothing
  | started (r : Except Error Unit)
  | taken (found : Bool)

structure DiscoveryRun where
  now : Instant := 0
  script : List DiscoveryReply := []
  running : Running Bool
  /-- The loops whose handles were taken. -/
  taken : List Nat := []
  isDropped : Bool := false

structure DiscoveryReport where
  answer : DiscoveryAnswer
  now : Instant
  /-- Whether the task is stopped, if there still is one. -/
  isStopped : Option Bool
  /-- Of each loop whose handle was taken, whether it has ended. -/
  ended : List Bool
  actions : List (Instant × RoundAction)

namespace DiscoveryRun

def recorder : DiscoveryHandler Bool where
  isUrgent on := on
  adopt _ on := on

def init (settings : DiscoverySettings) (urgent : Bool) (script : List DiscoveryReply) :
    DiscoveryRun :=
  { script := script.map onTimers, running := { task := { settings, timers }, state := urgent } }

def settle (r : DiscoveryRun) : DiscoveryRun :=
  { r with running := r.running.runAt recorder r.script r.now }

def onTask (r : DiscoveryRun) (f : DiscoveryTask → DiscoveryTask) : DiscoveryRun :=
  { r with running := { r.running with task := f r.running.task } }

/-- Carries out a command, without letting loops go on if it takes no time. -/
def perform (r : DiscoveryRun) (c : DiscoveryCommand) : DiscoveryRun × DiscoveryAnswer :=
  match c with
  | .urgent on => ({ r with running := { r.running with state := on } }, .nothing)
  | .advance d =>
    let x := pass (fun (x : Running Bool) => x.task.dues r.script)
      (fun now x => x.runAt recorder r.script now) r.now d r.running
    ({ r with now := x.1, running := x.2 }, .nothing)
  | c =>
    if r.isDropped then (r, .nothing)
    else
      match c with
      | .start hasExecutor =>
        let x := r.running.task.start hasExecutor
        (r.onTask fun _ => x.1, .started x.2)
      | .stop => (r.onTask DiscoveryTask.stop, .nothing)
      | .takeHandle =>
        let x := r.running.task.takeHandle
        ({ r.onTask fun _ => x.1 with taken := r.taken ++ x.2.toList }, .taken x.2.isSome)
      | _ => ({ r.onTask DiscoveryTask.drop with isDropped := true }, .nothing)

/-- Carries out commands in a row. After each of them all loops go on. -/
def performAll (r : DiscoveryRun) : List DiscoveryCommand → List DiscoveryReport
  | [] => []
  | c :: commands =>
    let x := r.perform c
    let r' := x.1.settle
    { answer := x.2
      now := r'.now
      isStopped := if r'.isDropped then none else some r'.running.task.isStopped
      ended := r'.taken.map r'.running.task.hasEnded
      actions := r'.running.actions.reverse } ::
      performAll { r' with running := { r'.running with actions := [] } } commands

end DiscoveryRun

end ClusterTransport.Simulation
