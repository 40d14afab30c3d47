import ClusterTransport.EndpointPool.Basic

/-!
# The endpoint pool

The current endpoint set with the settings by which endpoints are picked from it and by which
marks are kept from round to round.
-/

namespace ClusterTransport

structure EndpointPool where
  balancing : BalancingSettings := {}
  pessimization : PessimizationSettings := {}
  current : EndpointSet := {}

namespace EndpointPool

/-- Takes over a discovery round, and answers the endpoints that are gone. A round without
endpoints changes nothing. -/
def adopt (p : EndpointPool) (now : Instant) (selfLocation : String) (records : List Endpoint) :
    EndpointPool × List Endpoint :=
  if records.isEmpty then (p, [])
  else
    let ttl := Span.seconds p.pessimization.ttl.toNat
    let next := p.current.ofRound now ttl selfLocation records
    ({ p with current := next }, p.current.missingFrom next)

def pessimize (p : EndpointPool) (now : Instant) (e : Endpoint) : EndpointPool :=
  { p with current := p.current.pessimize now e }

def markedShare (p : EndpointPool) : Float :=
  p.current.pessimized.toFloat / p.current.size.toFloat

/-- Whether endpoints are needed urgently: there are none, or too many are marked. -/
def needsUrgentDiscovery (p : EndpointPool) : Bool :=
  if p.current.size = 0 then true
  else p.pessimization.urgentRatio < p.markedShare

def candidates (p : EndpointPool) : List Endpoint :=
  EndpointSet.candidates p.current.records (p.current.entries.map PoolEntry.isPessimized)

/-- Selects the endpoint of a call: the preferred one if it is listed and not marked, else one that
the balancing settings choose. -/
def select (p : EndpointPool) (preferred : Option Endpoint) (w : Balancing.Words) :
    Except Error Endpoint × Balancing.Words :=
  if p.current.size = 0 then (.error .noEndpoints, w)
  else
    match p.current.preferredPick preferred with
    | some e => (.ok e, w)
    | none =>
      match p.balancing.choose p.candidates p.current.selfLocation w with
      | (some e, w') => (.ok e, w')
      | (none, w') => (.error .noEndpoints, w')

/-- The health of an endpoint that is listed: since when it is marked, if it is. -/
def health (p : EndpointPool) (e : Endpoint) : Option (Option Instant) :=
  (p.current.entry? e).map PoolEntry.pessimizedAt

end EndpointPool

end ClusterTransport
