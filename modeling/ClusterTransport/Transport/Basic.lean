import ClusterTransport.Call.Settings
import ClusterTransport.ChannelPool.Operation
import ClusterTransport.Discovery.Task
import ClusterTransport.EndpointPool.Pool
import ClusterTransport.Readiness

/-!
# Transports

The endpoints that discovery found, the connections to them, and the gate at which calls wait for
the first round.
-/

namespace ClusterTransport

structure Transport where
  database : String := ""
  /-- How long a call without a deadline waits for readiness. -/
  defaultDeadline : Span := 0
  endpoints : EndpointPool := {}
  channels : ChannelPool := {}
  gate : Readiness := .pending
  discovery : DiscoveryTask := {}
  isShutdown : Bool := false

/-- Where a call goes: the endpoint that was selected, and the connection to it. -/
structure CallTarget where
  endpoint : Endpoint
  connection : Connection
deriving DecidableEq, Repr

namespace Transport

/-- A transport that has not found any endpoints yet, with its discovery running. -/
def start (c : Config) (hasExecutor : Bool) : Except Error Transport :=
  match ({ settings := c.discovery } : DiscoveryTask).start hasExecutor with
  | (_, .error e) => .error e
  | (discovery, .ok ()) =>
    .ok {
      database := c.database
      defaultDeadline := Span.seconds c.defaultDeadline.toNat
      endpoints := { balancing := c.balancing, pessimization := c.pessimization }
      discovery }

def isReady (t : Transport) : Bool :=
  t.gate.isReady

/-- Reports the final status of a call to an endpoint: any but success marks it. -/
def report (t : Transport) (now : Instant) (e : Endpoint) (s : Status) : Transport :=
  if s.isOk then t else { t with endpoints := t.endpoints.pessimize now e }

def connect (t : Transport) (reach : Reach) (e : Endpoint) :
    Transport × Except Error Connection :=
  let r := t.channels.get reach e
  ({ t with channels := r.1 }, r.2)

def callTarget (t : Transport) (reach : Reach) (w : Balancing.Words) (preferred : Option Endpoint) :
    Transport × Except Error CallTarget :=
  match (t.endpoints.select preferred w).1 with
  | .error e => (t, .error e)
  | .ok endpoint =>
    let r := t.connect reach endpoint
    (r.1, r.2.map fun connection => ⟨endpoint, connection⟩)

end Transport

end ClusterTransport
