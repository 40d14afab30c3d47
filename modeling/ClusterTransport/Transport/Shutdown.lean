import ClusterTransport.Transport.Basic

/-!
# Shutting down

A transport is shut down once: discovery is stopped, callers that wait are let go, and every
connection is closed.
-/

namespace ClusterTransport

/-- How far a shutdown is. -/
inductive ShuttingDown where
  /-- The transport is to be marked. -/
  | begun
  | stoppingDiscovery (s : Stopping)
  /-- The gate is to be closed. -/
  | closingGate
  | closingChannels (o : Evicting)
  | done

namespace ShuttingDown

def step (t : Transport) : ShuttingDown → Option (Transport × ShuttingDown)
  | begun =>
    if t.isShutdown then some (t, done)
    else some ({ t with isShutdown := true }, stoppingDiscovery .begun)
  | stoppingDiscovery .done => some (t, closingGate)
  | stoppingDiscovery s =>
    (s.step t.discovery).map fun r => ({ t with discovery := r.1 }, stoppingDiscovery r.2)
  | closingGate => some ({ t with gate := t.gate.close }, closingChannels .shutting)
  | closingChannels (.done _) => some (t, done)
  | closingChannels o =>
    let r := o.step t.channels
    some ({ t with channels := r.1 }, closingChannels r.2)
  | done => none

def steps : Nat → Transport × ShuttingDown → Transport × ShuttingDown
  | 0, s => s
  | n + 1, s =>
    match step s.1 s.2 with
    | none => s
    | some s' => steps n s'

/-- The number of steps after which a shutdown is done if nothing else takes any. -/
def bound (t : Transport) : Nat :=
  3 * t.channels.channels.length + 11

end ShuttingDown

def Transport.shutdown (t : Transport) : Transport :=
  (ShuttingDown.steps (ShuttingDown.bound t) (t, .begun)).1

end ClusterTransport
