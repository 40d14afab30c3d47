import ClusterTransport.Transport.Basic

/-!
# Adopting a round

What a transport does with the result of a discovery round: the endpoints are replaced, the
connections of endpoints that are gone are closed, and the gate is opened.
-/

namespace ClusterTransport

/-- How far the adoption of a round is. -/
inductive Adopting where
  /-- It is to be seen whether the result is of use. -/
  | begun (result : DiscoveryResult)
  /-- The endpoints are to be replaced. -/
  | replacing (result : DiscoveryResult)
  /-- The connections of the endpoints that went with this round are being closed. -/
  | removing (o : Evicting)
  /-- The connections of all endpoints that are not listed are being closed; calls that selected an
  endpoint before an earlier round may have opened some. -/
  | pruning (o : Evicting)
  /-- The gate is to be opened. -/
  | signalling
  | done

namespace Adopting

def step (now : Instant) (t : Transport) : Adopting → Transport × Adopting
  | begun result =>
    (t, if result.endpoints.isEmpty || t.channels.isShutdown then done else replacing result)
  | replacing result =>
    let r := t.endpoints.adopt now result.selfLocation result.endpoints
    ({ t with endpoints := r.1 }, removing (.removing r.2 0))
  | removing (.done _) => (t, pruning (.surveying t.endpoints.current.contains))
  | removing o =>
    let r := o.step t.channels
    ({ t with channels := r.1 }, removing r.2)
  | pruning (.done _) => (t, signalling)
  | pruning o =>
    let r := o.step t.channels
    ({ t with channels := r.1 }, pruning r.2)
  | signalling => ({ t with gate := t.gate.signal }, done)
  | done => (t, done)

def steps (now : Instant) : Nat → Transport × Adopting → Transport × Adopting
  | 0, s => s
  | n + 1, s => steps now n (step now s.1 s.2)

/-- The number of steps after which an adoption is done if nothing else takes any. -/
def bound (t : Transport) : Nat :=
  2 * t.endpoints.current.size + 3 * t.channels.channels.length + 9

end Adopting

def Transport.adopt (t : Transport) (now : Instant) (result : DiscoveryResult) : Transport :=
  (Adopting.steps now (Adopting.bound t) (t, .begun result)).1

end ClusterTransport
