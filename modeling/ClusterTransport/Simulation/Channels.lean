import ClusterTransport.ChannelPool.Operation

/-!
# Scripted channels

Operations on a channel pool in a row, with a factory that fails for some hosts.
-/

namespace ClusterTransport

def Reach.except (hosts : List String) : Reach := fun e =>
  if e.host ∈ hosts then some (.configuration (.described ("cannot reach " ++ e.address)))
  else none

namespace ChannelEvent

/-- Openings come before closings, and each of them in the order of their numbers. -/
def inOrder : ChannelEvent → ChannelEvent → Bool
  | opened a _, opened b _ => a ≤ b
  | opened .., closed .. => true
  | closed .., opened .. => false
  | closed a _, closed b _ => a ≤ b

def isOpening : ChannelEvent → Bool
  | opened .. => true
  | closed .. => false

end ChannelEvent

/-- What the factory did since a pool was in another state, from first to last. -/
def ChannelPool.eventsSince (p before : ChannelPool) : List ChannelEvent :=
  (p.journal.take (p.journal.length - before.journal.length)).reverse

namespace Simulation

inductive ChannelCommand where
  | get (e : Endpoint)
  | getDuringShutdown (e : Endpoint)
  | remove (endpoints : List Endpoint)
  | retain (keep : Endpoint → Bool)
  | contains (e : Endpoint)
  | shutdown
  /-- From now on the factory fails for these hosts. -/
  | fail (hosts : List String)

inductive ChannelAnswer where
  | nothing
  | connection (r : Except Error Connection)
  | count (n : Nat)
  | flag (b : Bool)

structure ChannelRun where
  pool : ChannelPool := {}
  failing : List String := []

structure ChannelReport where
  answer : ChannelAnswer
  events : List ChannelEvent
  pool : ChannelPool

namespace ChannelRun

def perform (r : ChannelRun) (c : ChannelCommand) : ChannelRun × ChannelAnswer :=
  let reach := Reach.except r.failing
  let connected := fun (x : ChannelPool × Except Error Connection) =>
    (({ r with pool := x.1 } : ChannelRun), ChannelAnswer.connection x.2)
  match c with
  | .get e => connected (r.pool.get reach e)
  | .getDuringShutdown e => connected (r.pool.getDuringShutdown reach e)
  | .remove endpoints => ({ r with pool := r.pool.remove endpoints }, .nothing)
  | .retain keep =>
    let x := r.pool.retain keep
    ({ r with pool := x.1 }, .count x.2)
  | .contains e => (r, .flag (r.pool.contains e))
  | .shutdown => ({ r with pool := r.pool.shutdown }, .nothing)
  | .fail hosts => ({ r with failing := hosts }, .nothing)

/-- What the factory did, in order after a removal and sorted after all else; the order in which
other operations visit the connections is left open. -/
def sortedEvents (c : ChannelCommand) (events : List ChannelEvent) : List ChannelEvent :=
  match c with
  | .remove _ => events
  | _ => events.mergeSort ChannelEvent.inOrder

def performAll (r : ChannelRun) : List ChannelCommand → List ChannelReport
  | [] => []
  | c :: commands =>
    let x := r.perform c
    ⟨x.2, sortedEvents c (x.1.pool.eventsSince r.pool), x.1.pool⟩ :: performAll x.1 commands

end ChannelRun

end Simulation

end ClusterTransport
