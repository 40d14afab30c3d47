import ClusterTransport.EndpointPool.Pool
import ClusterTransport.Text.Utf8

/-!
# Possible picks

The endpoints that a selection may answer, for whatever words are drawn.
-/

namespace ClusterTransport

/-- The share of the total weight below which an endpoint is as good as never drawn. -/
def Balancing.vanishing : Float :=
  1.0 / 1048576.0

def BalancingSettings.choices (s : BalancingSettings) (selfLocation : String)
    (candidates : List Endpoint) : List Endpoint :=
  let pool := s.eligible selfLocation candidates
  match s.weighting with
  | .uniform => pool
  | .loadFactor =>
    let weightOf := fun (e : Endpoint) => Balancing.weight e.loadFactor
    let total := (pool.map weightOf).foldl (· + ·) 0.0
    if total == 0.0 then pool
    else pool.filter fun e => Balancing.vanishing < weightOf e / total

namespace EndpointPool

def bytesBefore : List UInt8 → List UInt8 → Bool
  | [], [] => false
  | [], _ :: _ => true
  | _ :: _, [] => false
  | a :: s, b :: t => a < b || (a == b && bytesBefore s t)

def inOrder (a b : Endpoint) : Bool :=
  let hostA := Text.Utf8.encode a.host
  let hostB := Text.Utf8.encode b.host
  if hostA = hostB then a.port ≤ b.port else bytesBefore hostA hostB

/-- The endpoints that `select` may answer, by host and port. -/
def picks (p : EndpointPool) (preferred : Option Endpoint) : Except Error (List Endpoint) :=
  if p.current.size = 0 then .error .noEndpoints
  else
    match p.current.preferredPick preferred with
    | some e => .ok [e]
    | none =>
      .ok ((p.balancing.choices p.current.selfLocation p.candidates).mergeSort inOrder)

end EndpointPool

end ClusterTransport
